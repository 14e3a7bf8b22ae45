import Revenant.Agreement.Background
import Revenant.Gateway.FieldActivity

namespace Revenant
namespace Agreement
namespace FieldActivity

open Library Activities Gateway Gateway.FieldSession Replay.FieldActivity
open Replay (CampaignResumePayload Payload ReplayEvent ReplayEventKind)
open Activities.Coolant (Attempt Observation Observed Through Delivered CoolantRun)
open Activities.Meridian (Expedition Progress)

/-!
# Field activities: live session and replay

The reader knows the phase of the coolant run, the expedition into the annex and
the owner of both.  What the run was shown is ordered in time, so it tells how
each phase was reached; a step either shows the run one observation more or
starts an expired attempt again.

Both directions are here.  What a live session writes is accepted, and a
journal that is accepted, from wherever it came, tells of attempts in the
order of their phases.
-/

/-- The reader's number of a phase. -/
def phaseCode : Coolant.Phase → Nat
  | .transfer => 1
  | .delivery => 2
  | .expired => 3
  | .completed => 4

/-- What the reader knows of the live session. -/
inductive Related (session : FieldSession) (replay : ReplayState) : Prop
  | unchosen (unchosen : session.encounter = none) (idle : replay.phase = 0)
      (unowned : replay.owner = none) (outside : replay.meridian = none)
      (silent : replay.fieldObjectives = fun _ => none) : Related session replay
  | coolant {encounter : CoolantEncounter}
      (chosen : session.encounter = some (.coolant encounter))
      (phase : replay.phase = phaseCode encounter.attempt.run.phase)
      (owner : replay.owner = some (session.player.accountId, some session.player.actorId))
      (outside : replay.meridian = none) (silent : replay.fieldObjectives = fun _ => none) :
      Related session replay
  | meridian {progress : Progress}
      (chosen : session.encounter = some (.meridian progress.expedition))
      (bounded : progress.Bounded) (idle : replay.phase = 0)
      (owner : replay.owner = some (session.player.accountId, some session.player.actorId))
      (inside : replay.meridian = some progress.expedition)
      (reports : Reports replay.fieldObjectives progress.expedition) : Related session replay

/-- The attempt is told by what it was shown, up to now. -/
structure Observing (session : FieldSession) (encounter : CoolantEncounter) : Prop where
  player : encounter.playerId = session.player.actorId
  attempt : encounter.attempt = Attempt.after encounter.seen
  ordered : (encounter.seen.map Observation.elapsedMs).Pairwise (· ≤ ·)
  past : ∀ observation ∈ encounter.seen,
    observation.elapsedMs ≤ elapsedMillis encounter.startedAt session.clock

/-- What every step keeps: the journal reads to a related state and holds no row
of a route, a cooperation or a resumed campaign, the choice is locked once an
activity was entered, and what a coolant run was shown is in order. -/
structure Kept (session : FieldSession) : Prop where
  follows : Library.Follows applyEvent (initial none none) Session.journal Related session
  clean : ∀ event ∈ session.journal, event.kind.isRouteEvent = false ∧
    event.kind.isCooperationEvent = false ∧ isResume event = false
  calm : session.stage = .door → ∀ event ∈ session.journal, event.kind.progressesMain = false
  locked : session.encounter ≠ none → session.choiceOpen = false
  observing : ∀ encounter, session.encounter = some (.coolant encounter) →
    Observing session encounter

section Rows

variable {session next : FieldSession} {replay : ReplayState} {write : Write}

/-- A row of the owner is one of the same identity. -/
theorem Related.identified (related : Related session replay) (payload : Payload) :
    Identified replay
      (session.row write .fieldActivity (some session.player.actorId) payload) := by
  refine ⟨nofun, ?_⟩
  intro prior owns
  cases related with
  | unchosen _ _ unowned => rw [unowned] at owns; cases owns
  | coolant _ _ owner => rw [owner] at owns; exact (Option.some.inj owns).symm
  | meridian _ _ _ owner => rw [owner] at owns; exact (Option.some.inj owns).symm

/-- Another clock, other actors: the reader sees nothing of them. -/
theorem Related.same (related : Related session replay)
    (encounter : next.encounter = session.encounter) (player : next.player = session.player) :
    Related next replay := by
  cases related with
  | unchosen unchosen idle unowned outside silent =>
      exact .unchosen (encounter.trans unchosen) idle unowned outside silent
  | coolant chosen phase owner outside silent =>
      exact .coolant (encounter.trans chosen) phase (player ▸ owner) outside silent
  | meridian chosen bounded idle owner inside reports =>
      exact .meridian (encounter.trans chosen) bounded idle (player ▸ owner) inside reports

theorem Observing.later {encounter : CoolantEncounter} (observing : Observing session encounter)
    (player : next.player = session.player) (clock : session.clock ≤ next.clock) :
    Observing next encounter :=
  { player := player ▸ observing.player
    attempt := observing.attempt
    ordered := observing.ordered
    past := fun observation member =>
      (observing.past observation member).trans (elapsedMillis_mono _ clock) }

/-- A change that writes nothing and leaves the encounter. -/
theorem Kept.silent (kept : Kept session) (journal : next.journal = session.journal)
    (stage : next.stage = session.stage) (encounter : next.encounter = session.encounter)
    (player : next.player = session.player) (clock : session.clock ≤ next.clock)
    (choice : next.choiceOpen = session.choiceOpen ∨ next.choiceOpen = false) : Kept next := by
  constructor
  · exact kept.follows.step fun replay related => .silent journal (related.same encounter player)
  · rw [journal]
    exact kept.clean
  · rw [journal, stage]
    exact kept.calm
  · rw [encounter]
    intro some
    rcases choice with same | closed
    · exact same.trans (kept.locked some)
    · exact closed
  · rw [encounter]
    exact fun encounter chosen => (kept.observing encounter chosen).later player clock

/-- A field row, and what the reader makes of it. -/
theorem Kept.fieldRow (kept : Kept session) {payload : Payload} (follows : session.Follows write)
    (journal : next.journal = session.journal ++
      [session.row write .fieldActivity (some session.player.actorId) payload])
    (family :
      isField (session.row write .fieldActivity (some session.player.actorId) payload) = true)
    (stage : next.stage = session.stage) (closed : next.choiceOpen = false)
    (observing : ∀ encounter, next.encounter = some (.coolant encounter) → Observing next encounter)
    (read : ∀ replay, Related session replay → ∃ after,
      applyField next.journal replay
        (session.row write .fieldActivity (some session.player.actorId) payload) = .ok after ∧
      Related next after) : Kept next := by
  constructor
  · refine kept.follows.step fun replay related => ?_
    obtain ⟨after, accepted, related⟩ := read replay related
    refine .recorded _ after journal (stable_append follows.2) ?_ related
    rw [applyEvent, family, if_pos rfl, ← journal]
    exact accepted
  · rw [journal]
    intro event member
    rcases List.mem_append.mp member with old | last
    · exact kept.clean event old
    · rw [List.mem_singleton.mp last]
      exact ⟨rfl, rfl, rfl⟩
  · rw [journal, stage]
    intro door event member
    rcases List.mem_append.mp member with old | last
    · exact kept.calm door event old
    · rw [List.mem_singleton.mp last]
      rfl
  · exact fun _ => closed
  · exact observing

/-- Before a row at the door nothing moved the main mission. -/
theorem Kept.calmRow (kept : Kept session) (door : session.stage = .door) {payload : Payload}
    (journal : next.journal = session.journal ++
      [session.row write .fieldActivity (some session.player.actorId) payload]) :
    Calm next.journal
      (session.row write .fieldActivity (some session.player.actorId) payload) := by
  intro other member earlier
  rw [journal, List.mem_append, List.mem_singleton] at member
  rcases member with old | rfl
  · exact kept.calm door other old
  · exact absurd earlier (lt_irrefl _)

end Rows

/-! ## The coolant run -/

section Coolant

variable {capabilities : FieldCapabilities} {session : FieldSession}

/-- The row of a phase that was entered moves the reader to its number. -/
theorem coolantPhase_row {run next : CoolantRun} {position : Position} {elapsedMs : Nat}
    (observed : Observed run position elapsedMs next) (changed : next.phase ≠ run.phase) :
    coolantPhase (phaseCode run.phase) (phaseRow next.phase) = some (phaseCode next.phase) := by
  cases observed with
  | idle => exact absurd rfl changed
  | late running =>
      cases phase : run.phase with
      | transfer =>
          change coolantPhase 1 (coolantRow "expired") = some 3
          decide
      | delivery =>
          change coolantPhase 2 (coolantRow "expired") = some 3
          decide
      | completed | expired => rw [phase] at running; cases running
  | away | waiting => exact absurd rfl changed
  | transferred phase =>
      rw [phase]
      change coolantPhase 1 (coolantRow "transfer") = some 2
      decide
  | delivered phase =>
      rw [phase]
      change coolantPhase 2 (coolantRow "completed") = some 4
      decide

theorem phaseRow_plain (phase : Coolant.Phase) : meridianLetters? (phaseRow phase) = none := by
  cases phase <;> decide

theorem phaseRow_field {event : ReplayEvent} (kind : event.kind = .fieldActivity)
    {phase : Coolant.Phase} (payload : event.payload = phaseRow phase) : isField event = true := by
  cases phase <;> exact isField_text kind payload

theorem observe_same {attempt : Attempt} {observation : Observation}
    (same : (attempt.run.update observation.position observation.elapsedMs).1.phase =
      attempt.run.phase) : (attempt.observe observation).run.phase = attempt.run.phase := by
  unfold Attempt.observe
  rw [if_pos same]
  exact same

theorem observe_refused {attempt : Attempt} {observation : Observation}
    (refused : observation.stored = false) :
    (attempt.observe observation).run.phase = attempt.run.phase := by
  simp only [Attempt.observe, refused, Bool.false_eq_true, if_false]
  split
  · assumption
  · rfl

theorem observe_stored {attempt : Attempt} {observation : Observation}
    (changed : (attempt.run.update observation.position observation.elapsedMs).1.phase ≠
      attempt.run.phase) (stored : observation.stored = true) :
    (attempt.observe observation).run =
      (attempt.run.update observation.position observation.elapsedMs).1 := by
  unfold Attempt.observe
  rw [if_neg changed, stored, if_pos rfl]

/-- One observation more, made now. -/
theorem Observing.observe {encounter : CoolantEncounter} {observation : Observation}
    {next : FieldSession} (observing : Observing session encounter)
    (here : observation.elapsedMs = elapsedMillis encounter.startedAt session.clock)
    (player : next.player = session.player) (clock : session.clock ≤ next.clock) :
    Observing next (encounter.observe observation) := by
  constructor
  · exact player ▸ observing.player
  · change encounter.attempt.observe observation = Attempt.after (encounter.seen ++ [observation])
    rw [Attempt.after_snoc, ← observing.attempt]
  · change ((encounter.seen ++ [observation]).map Observation.elapsedMs).Pairwise (· ≤ ·)
    rw [List.map_append, List.map_singleton, List.pairwise_append]
    refine ⟨observing.ordered, List.pairwise_singleton _ _, ?_⟩
    intro earlier member later only
    obtain ⟨old, inside, rfl⟩ := List.mem_map.mp member
    rw [List.mem_singleton.mp only, here]
    exact observing.past old inside
  · intro old member
    have now : elapsedMillis encounter.startedAt session.clock ≤
        elapsedMillis encounter.startedAt next.clock := elapsedMillis_mono _ clock
    rcases List.mem_append.mp member with earlier | last
    · exact (observing.past old earlier).trans now
    · rw [List.mem_singleton.mp last, here]
      exact now

/-- A phase that does not change is not written. -/
theorem Kept.unchanged (kept : Kept session) {encounter : CoolantEncounter}
    (chosen : session.encounter = some (.coolant encounter)) {observation : Observation}
    (here : observation.elapsedMs = elapsedMillis encounter.startedAt session.clock)
    (same : (encounter.observe observation).attempt.run.phase = encounter.attempt.run.phase) :
    Kept (session.withCoolant (encounter.observe observation)) := by
  constructor
  · refine kept.follows.step fun replay related => .silent rfl ?_
    cases related with
    | unchosen unchosen => rw [chosen] at unchosen; cases unchosen
    | coolant again phase owner outside silent =>
        rw [chosen] at again
        cases again
        exact .coolant rfl (phase.trans (congrArg phaseCode same.symm)) owner outside silent
    | meridian other => rw [chosen] at other; cases other
  · exact kept.clean
  · exact kept.calm
  · exact fun _ => kept.locked (by rw [chosen]; nofun)
  · intro other again
    cases again
    exact (kept.observing encounter chosen).observe here rfl le_rfl

theorem Kept.tickCoolant (kept : Kept session) (write : Option Write) :
    Kept (session.tickCoolant write).1 := by
  unfold FieldSession.tickCoolant
  cases chosen : session.encounter with
  | none => exact kept
  | some field =>
      cases field with
      | meridian expedition => exact kept
      | coolant encounter =>
          simp only [tickCoolantAt, chosen]
          cases session.actors.get encounter.playerId with
          | none => exact kept
          | some player =>
              generalize elapsed : elapsedMillis encounter.startedAt session.clock = elapsedMs
              have observed := encounter.attempt.run.update_observed player.position elapsedMs
              dsimp only
              split
              · next same => exact kept.unchanged chosen elapsed.symm (observe_same same)
              · next changed =>
                cases appended : session.appendEvent write .fieldActivity
                    (some encounter.playerId) (phaseRow
                      (encounter.attempt.run.update player.position elapsedMs).1.phase) with
                | none => exact kept.unchanged chosen elapsed.symm (observe_refused rfl)
                | some stored =>
                    obtain ⟨done, -, follows, rfl⟩ := Session.appendEvent_eq_some.mp appended
                    have observing := kept.observing encounter chosen
                    refine kept.fieldRow follows (by rw [← observing.player]; rfl)
                      (phaseRow_field rfl rfl) rfl (kept.locked (by rw [chosen]; nofun)) ?_ ?_
                    · intro other again
                      cases again
                      exact observing.observe elapsed.symm rfl follows.1
                    · intro replay related
                      have identified := @Related.identified _ _ done related
                        (phaseRow (encounter.attempt.run.update player.position elapsedMs).1.phase)
                      cases related with
                      | unchosen unchosen => rw [chosen] at unchosen; cases unchosen
                      | meridian other => rw [chosen] at other; cases other
                      | coolant again phase owner outside silent =>
                          rw [chosen] at again
                          cases again
                          have moved := coolantPhase_row observed changed
                          rw [← phase] at moved
                          refine ⟨_, applyField_coolant identified outside (phaseRow_plain _) moved,
                            .coolant rfl ?_ rfl outside silent⟩
                          have adopted := @observe_stored encounter.attempt
                            ⟨player.position, elapsedMs, true⟩ changed rfl
                          exact congrArg (fun run => phaseCode run.phase) adopted.symm

/-- A new attempt: the choice was open, or the last attempt expired. -/
theorem Kept.startCoolant (kept : Kept session) {next : FieldSession} {write : Option Write}
    (free : session.coolantRetry = true ∨ session.coolantAvailable capabilities = true)
    (started : session.startCoolant write = some next) : Kept next := by
  simp only [FieldSession.startCoolant, Option.bind_eq_bind, Option.bind_eq_some_iff,
    Session.appendEvent_eq_some, Option.pure_def, Option.some.injEq] at started
  obtain ⟨_, ⟨done, -, follows, rfl⟩, rfl⟩ := started
  have fresh : ∀ replay, Related session replay →
      (replay.phase = 0 ∨ replay.phase = 3) ∧ replay.meridian = none ∧
        replay.fieldObjectives = fun _ => none := by
    intro replay related
    cases related with
    | unchosen _ idle _ outside silent => exact ⟨Or.inl idle, outside, silent⟩
    | coolant chosen phase _ outside silent =>
        refine ⟨Or.inr ?_, outside, silent⟩
        rcases free with retry | available
        · simp only [coolantRetry, chosen, Bool.and_eq_true, decide_eq_true_eq] at retry
          rw [phase, retry.2]
          rfl
        · simp only [coolantAvailable, Bool.and_eq_true] at available
          rw [kept.locked (by rw [chosen]; nofun)] at available
          cases available.2
    | meridian chosen =>
        rcases free with retry | available
        · simp only [coolantRetry, chosen, Bool.and_false, Bool.false_eq_true] at retry
        · simp only [coolantAvailable, Bool.and_eq_true] at available
          rw [kept.locked (by rw [chosen]; nofun)] at available
          cases available.2
  refine kept.fieldRow follows rfl (isField_text rfl rfl) rfl ?_ ?_ ?_
  · dsimp only
    split
    · next retry =>
      refine kept.locked ?_
      intro unchosen
      simp only [coolantRetry, unchosen, Bool.and_false, Bool.false_eq_true] at retry
    · rfl
  · intro encounter chosen
    cases chosen
    exact ⟨rfl, rfl, List.Pairwise.nil, fun _ member => absurd member List.not_mem_nil⟩
  · intro replay related
    obtain ⟨phase, outside, silent⟩ := fresh replay related
    have plain : meridianLetters? (coolantRow "started") = none := by decide
    exact ⟨_, applyField_coolant (related.identified (coolantRow "started")) outside plain
      (if_pos ⟨phase, rfl⟩), .coolant rfl rfl rfl outside silent⟩

theorem Kept.handleCoolantMovement (kept : Kept session) (position : Position)
    (write : Option Write) :
    Kept (session.handleCoolantMovement capabilities position write).1 := by
  unfold FieldSession.handleCoolantMovement
  split
  · next entered =>
    cases started : session.startCoolant write with
    | none => exact kept
    | some next => exact kept.startCoolant entered.2 started
  · have ticked := kept.tickCoolant write
    generalize session.tickCoolant write = outcome at ticked ⊢
    obtain ⟨next, stored⟩ := outcome
    cases stored
    · exact ticked
    · exact ticked

end Coolant

/-! ## The annex -/

section Annex

variable {capabilities : FieldCapabilities} {session next : FieldSession}

theorem Kept.handleMeridianMovement (kept : Kept session) {position : Position}
    {write : Option Write}
    (handled : session.handleMeridianMovement capabilities position write = some next) :
    Kept next ∧ next.stage = session.stage := by
  unfold FieldSession.handleMeridianMovement at handled
  split at handled
  · next available =>
    have door : session.stage = .door := by
      unfold meridianTraversalAvailable at available
      simp only [Bool.and_eq_true, decide_eq_true_eq] at available
      exact available.1.1
    cases chosen : session.encounter with
    | none =>
        simp only [chosen] at handled
        split at handled
        · simp only [Option.bind_eq_bind, Option.bind_eq_some_iff, Session.appendEvent_eq_some,
            Option.pure_def, Option.some.injEq] at handled
          obtain ⟨_, ⟨done, -, follows, rfl⟩, rfl⟩ := handled
          refine ⟨kept.fieldRow follows rfl (isField_text rfl rfl) rfl rfl nofun ?_, rfl⟩
          intro replay related
          have identified := @Related.identified _ _ done related Replay.FieldActivity.started
          cases related with
          | unchosen _ idle _ outside silent =>
              refine ⟨_, applyField_entered identified (kept.calmRow door rfl) idle outside rfl,
                @Related.meridian _ _ ⟨0, 0, false⟩ rfl ⟨by decide, by decide⟩ idle rfl rfl ?_⟩
              rw [show replay.fieldObjectives = fun _ => none from silent]
              exact reports_initial rfl
          | coolant other => rw [chosen] at other; cases other
          | meridian other => rw [chosen] at other; cases other
        · cases handled
          exact ⟨kept, rfl⟩
    | some field =>
        cases field with
        | coolant encounter =>
            simp only [meridianTraversalAvailable, chosen, Bool.and_false,
              Bool.false_eq_true] at available
        | meridian expedition =>
            simp only [chosen] at handled
            cases visited : expedition.visit position with
            | none =>
                simp only [visited] at handled
                cases handled
                exact ⟨kept, rfl⟩
            | some outcome =>
                obtain ⟨after, payload, updates⟩ := outcome
                simp only [visited, Option.bind_eq_bind, Option.bind_eq_some_iff,
                  Session.appendEvent_eq_some, Option.pure_def, Option.some.injEq] at handled
                obtain ⟨_, ⟨done, -, follows, rfl⟩, rfl⟩ := handled
                refine ⟨kept.fieldRow follows rfl (isField_text rfl rfl) rfl
                  (kept.locked (by rw [chosen]; nofun)) nofun ?_, rfl⟩
                intro replay related
                have identified := @Related.identified _ _ done related (.text payload)
                cases related with
                | unchosen unchosen => rw [chosen] at unchosen; cases unchosen
                | coolant other => rw [chosen] at other; cases other
                | @meridian progress again bounded idle owner inside reports =>
                    rw [chosen] at again
                    cases again
                    obtain ⟨station, member, rfl, rfl, reached, progressed, moved, rfl⟩ :=
                      Meridian.visit_eq_some bounded visited
                    exact ⟨_, applyField_visited identified (kept.calmRow door rfl) idle inside
                      member visited rfl, .meridian rfl (bounded.visit moved) idle rfl rfl
                        (reports.visit bounded member reached)⟩
  · cases handled
    exact ⟨kept, rfl⟩

end Annex

/-! ## Steps and runs -/

section Runs

variable {capabilities : FieldCapabilities} {session next : FieldSession}

theorem Kept.enterDoor (kept : Kept session) (bossId : Nat) (write : Option Write) :
    Kept (session.enterDoor bossId write) := by
  have locked : Kept { session with choiceOpen := false } :=
    kept.silent rfl rfl rfl rfl le_rfl (Or.inr rfl)
  unfold FieldSession.enterDoor
  dsimp only
  cases opened : Session.openRelayDoor { session with choiceOpen := false } bossId write with
  | none => exact locked.silent rfl rfl rfl rfl le_rfl (Or.inl rfl)
  | some after =>
      obtain ⟨done, follows, rfl⟩ := openRelayDoor_eq_some opened
      constructor
      · refine locked.follows.step fun replay related => .recorded _ replay rfl
          (stable_append follows.2) (applyEvent_other rfl) (related.same rfl rfl)
      · intro event member
        rcases List.mem_append.mp member with old | last
        · exact kept.clean event old
        · rw [List.mem_singleton.mp last]
          exact ⟨rfl, rfl, rfl⟩
      · exact nofun
      · exact fun _ => rfl
      · exact fun encounter chosen => (locked.observing encounter chosen).later rfl follows.1

theorem Kept.takeStep (kept : Kept session) {position : Position}
    {meridianWrite coolantWrite doorWrite : Option Write} {bossId : Nat}
    (taken : session.takeStep capabilities position meridianWrite coolantWrite doorWrite bossId =
      some next) : Kept next := by
  simp only [FieldSession.takeStep, Option.bind_eq_bind, Option.bind_eq_some_iff] at taken
  obtain ⟨visited, handled, taken⟩ := taken
  have placed : Kept (visited.place position) :=
    (kept.handleMeridianMovement handled).1.silent rfl rfl rfl rfl le_rfl (Or.inl rfl)
  have moved := @Kept.handleCoolantMovement capabilities _ placed position coolantWrite
  generalize FieldSession.handleCoolantMovement capabilities (visited.place position) position
    coolantWrite = outcome at moved taken
  obtain ⟨after, answer⟩ := outcome
  cases answer with
  | none => cases taken; exact moved
  | some stays =>
      cases stays with
      | true => cases taken; exact moved
      | false =>
          cases taken
          split
          · exact moved.enterDoor bossId doorWrite
          · exact moved

/-- A move crosses no wall it may not cross, or is a step. -/
theorem movePlayerAt_eq_some {position : Position}
    {meridianWrite coolantWrite doorWrite : Option Write} {bossId : Nat}
    (moved : session.movePlayerAt capabilities position meridianWrite coolantWrite doorWrite
      bossId = some next) :
    next = session ∨
      session.takeStep capabilities position meridianWrite coolantWrite doorWrite bossId =
        some next := by
  unfold FieldSession.movePlayerAt at moved
  split at moved
  · cases moved
  · split at moved
    · cases moved
    · next player _ =>
      dsimp only at moved
      by_cases west : position.x < -12 ∨ player.position.x < -12
      · rw [if_pos west] at moved
        generalize inside : (Bool.and _ _) = crosses at moved
        cases crosses with
        | true => exact Or.inr moved
        | false =>
            cases moved
            exact Or.inl rfl
      · rw [if_neg west] at moved
        split at moved
        · cases moved
        · exact Or.inr moved

theorem Kept.movePlayerAt (kept : Kept session) {position : Position}
    {meridianWrite coolantWrite doorWrite : Option Write} {bossId : Nat}
    (moved : session.movePlayerAt capabilities position meridianWrite coolantWrite doorWrite
      bossId = some next) : Kept next := by
  rcases movePlayerAt_eq_some moved with rfl | taken
  · exact kept
  · exact kept.takeStep taken

theorem Kept.step (kept : Kept session) (step : Step capabilities session next) : Kept next := by
  cases step with
  | move now position meridianWrite coolantWrite doorWrite bossId later fresh elsewhere moved =>
      have advanced : Kept (session.advance now) := kept.silent rfl rfl rfl rfl later (Or.inl rfl)
      exact advanced.movePlayerAt moved
  | tick now write later ticked =>
      have advanced : Kept (session.advance now) := kept.silent rfl rfl rfl rfl later (Or.inl rfl)
      exact ticked ▸ advanced.tickCoolant write

theorem kept_opened (opened : Opened session) : Kept session := by
  have early : ∀ event ∈ session.journal, isField event = false ∧
      event.kind.isRouteEvent = false ∧ event.kind.isCooperationEvent = false ∧
        isResume event = false := by
    intro event member
    have prelude := opened.prelude event member
    unfold isPrelude at prelude
    cases kind : event.kind <;>
      simp_all [isField, isResume, ReplayEventKind.isRouteEvent, ReplayEventKind.isCooperationEvent]
  constructor
  · refine ⟨initial none none, Reads.of_ignored fun event member =>
      applyEvent_other (early event member).1, ?_⟩
    exact .unchosen opened.unchosen rfl rfl rfl rfl
  · exact fun event member => (early event member).2
  · exact fun _ event member => (plain_of_prelude (opened.prelude event member)).1
  · exact fun some => absurd opened.unchosen some
  · intro encounter chosen
    rw [opened.unchosen] at chosen
    cases chosen

theorem Kept.run (kept : Kept session)
    (run : Relation.ReflTransGen (Step capabilities) session next) : Kept next := by
  induction run with
  | refl => exact kept
  | tail _ step inductionHypothesis => exact inductionHypothesis.step step

end Runs

/-! ## The whole journal -/

/-- What the reader reports of the live activity. -/
def Shows (session : FieldSession) (replay : ReplayState) : Prop :=
  match session.encounter with
  | none => replay.phase = 0 ∧ replay.reported = fun _ => none
  | some (.coolant encounter) =>
      replay.phase = phaseCode encounter.attempt.run.phase ∧ replay.reported = fun _ => none
  | some (.meridian expedition) => replay.phase = 0 ∧ replay.reported = expedition.shown

theorem Related.shows {session : FieldSession} {replay : ReplayState}
    (related : Related session replay) : Shows session replay := by
  unfold Shows ReplayState.reported
  cases related with
  | unchosen unchosen idle _ outside silent =>
      rw [unchosen, outside]
      exact ⟨idle, silent⟩
  | coolant chosen phase _ outside silent =>
      rw [chosen, outside]
      exact ⟨phase, silent⟩
  | meridian chosen bounded idle _ inside reports =>
      rw [chosen, inside]
      exact ⟨idle, reports.reported bounded⟩

/-- The validator accepts the journal and ends where the session is. -/
theorem Kept.validates {session : FieldSession} (kept : Kept session)
    (readResume : Payload → Encoded CampaignResumePayload) :
    ∃ replay, Reads applyEvent (initial none none) session.journal replay ∧ Shows session replay ∧
      validateFieldActivityEvents readResume session.journal = .ok replay.reported := by
  obtain ⟨replay, read, related⟩ := kept.follows
  have fresh : session.journal.filter isResume = [] := by
    rw [List.filter_eq_nil_iff]
    intro event member
    rw [(kept.clean event member).2.2]
    exact Bool.false_ne_true
  have apart : ¬ (replay.owner.isSome ∧ ∃ event ∈ session.journal,
      event.kind.isRouteEvent = true ∨ event.kind.isCooperationEvent = true) := by
    rintro ⟨-, event, member, other⟩
    obtain ⟨route, cooperation, -⟩ := kept.clean event member
    rw [route, cooperation] at other
    rcases other with other | other <;> cases other
  refine ⟨replay, read, related.shows, ?_⟩
  unfold Reads at read
  simp only [validateFieldActivityEvents, resumed_fresh fresh, bind_eq_ok, Prod.exists,
    exists_unit, rejectIf_eq_ok]
  exact ⟨none, none, rfl, replay, read, apart, rfl⟩

end FieldActivity
end Agreement
end Revenant
