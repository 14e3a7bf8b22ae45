import Revenant.Campaign.Policy

namespace Revenant
namespace Campaign

open Library

/-!
# Campaign histories

A save is reached by accepted proposals, under any mix of policies.  No
accepted proposal wedges it, first clears are granted once and in order, and
every run confirms its milestones in the order it was entered with.

A history keeps for each entry the save before and after it.  The logs of the
runs are computed from the entries, and `Logged` compares them with the save:
they agree on the active run, its checkpoint and the chapters cleared.
-/

/-! ## One proposal -/

variable {state : CampaignState}

/-- A step from a save the policy can read ends in one it can read. -/
theorem step_valid {available : Nat} {command : Command} {outcome : Outcome}
    (valid : state.Valid available) (room : state.revision < maxRevision)
    (step : Step available state command outcome) : outcome.after.Valid available := by
  cases step with
  | @story run position action story active proposed =>
      constructor
      · exact room
      · exact valid.cleared
      · intro other present
        have own := valid.run other present
        exact { own with begun := Nat.succ_pos _ }
      · intro _
        exact Nat.succ_pos _
  | enter plain idle published admits =>
      constructor
      · exact room
      · exact valid.cleared
      · intro run present
        cases present
        exact ⟨plain, published, ChapterId.milestones_pos _, admits, Nat.succ_pos _⟩
      · intro _
        exact Nat.succ_pos _
  | @confirm run milestone active next open' =>
      have own := valid.run run active
      constructor
      · exact room
      · exact valid.cleared
      · intro other present
        cases present
        have bound := own.open'
        exact { plain := own.plain, published := own.published, open' := by dsimp only; omega
                admits := own.admits, begun := Nat.succ_pos _ }
      · intro _
        exact Nat.succ_pos _
  | @complete run milestone active next full =>
      have own := valid.run run active
      have cleared := valid.cleared
      constructor
      · exact room
      · change state.clearedChapters + (if (clearOf run).isSome then 1 else 0) ≤ available
        unfold clearOf
        have admits := own.admits
        have published := own.published
        unfold CampaignState.Admits at admits
        cases mode : run.mode with
        | progress =>
            -- The cleared chapter is the next one, and the policy has it.
            rw [mode] at admits
            simp only [Option.isSome_some, if_true]
            omega
        | practice => simpa using cleared
      · intro other impossible
        cases impossible
      · intro _
        exact Nat.succ_pos _

/-- Whatever passes the guards of its branch is proposed. -/
theorem propose_of_attempt {policy : Policy} {expectedRevision : Nat} {command : Command}
    {outcome : Outcome} (attempted : attempt policy state expectedRevision command = .ok outcome) :
    proposePolicy policy state expectedRevision command =
      .ok ⟨policy.text, state, command, outcome.after, outcome.firstClear⟩ := by
  obtain ⟨ready, step⟩ := attempt_iff.mp attempted
  exact proposePolicy_iff.mpr ⟨outcome, ready, step, step_valid ready.valid ready.room step, rfl⟩

/-- A newer policy gives the same answer. -/
theorem propose_newer {older newer : Policy} (later : older.order ≤ newer.order)
    {expectedRevision : Nat} {command : Command} {transition : Transition}
    (accepted : proposePolicy older state expectedRevision command = .ok transition) :
    proposePolicy newer state expectedRevision command =
      .ok { transition with revision := newer.text } := by
  obtain ⟨outcome, ready, step, valid, rfl⟩ := proposePolicy_iff.mp accepted
  have grown := Policy.available_mono later
  refine proposePolicy_iff.mpr ⟨outcome, ?_, ?_, valid.mono grown, rfl⟩
  · refine ⟨ready.valid.mono grown, ?_, ready.expected, ready.room⟩
    rcases ready.frozen with rfl | frozen
    · exact Or.inl (Policy.current_of_order_le later)
    · exact Or.inr frozen
  · cases step with
    | story active proposed => exact Step.story active proposed
    | enter plain idle published admits =>
        exact Step.enter plain idle (lt_of_lt_of_le published grown) admits
    | confirm active next open' => exact Step.confirm active next open'
    | complete active next full => exact Step.complete active next full

/-! ## Histories -/

/-- One accepted proposal. -/
structure Entry where
  policy : Policy
  command : Command
  before : CampaignState
  after : CampaignState
  firstClear : Option FirstClear
  deriving DecidableEq, Repr

def Entry.Accepted (entry : Entry) : Prop :=
  proposePolicy entry.policy entry.before entry.before.revision entry.command =
    .ok ⟨entry.policy.text, entry.before, entry.command, entry.after, entry.firstClear⟩

/-- Accepted proposals from a new campaign, under any mix of policies. -/
structure History (entries : List Entry) (state : CampaignState) : Prop where
  chain : Chain Entry.before Entry.after .default entries state
  accepted : ∀ entry ∈ entries, entry.Accepted

variable {entries : List Entry}

theorem History.induct {motive : List Entry → CampaignState → Prop} (empty : motive [] .default)
    (grow : ∀ entries entry, History entries entry.before → entry.Accepted →
      motive entries entry.before → motive (entries ++ [entry]) entry.after)
    (history : History entries state) : motive entries state :=
  history.chain.snocInduction empty
    (fun old entry chain accepted earlier holds => grow old entry ⟨chain, earlier⟩ accepted holds)
    history.accepted

variable {entry : Entry}

/-- What an accepted entry did. -/
theorem Entry.Accepted.step (accepted : entry.Accepted) :
    Ready entry.policy entry.before entry.before.revision entry.command ∧
      Step entry.policy.available entry.before entry.command ⟨entry.after, entry.firstClear⟩ ∧
      entry.after.Valid entry.policy.available := by
  obtain ⟨⟨after, firstClear⟩, ready, step, valid, same⟩ := proposePolicy_iff.mp accepted
  simp only [Transition.mk.injEq, true_and] at same
  obtain ⟨rfl, rfl⟩ := same
  exact ⟨ready, step, valid⟩

theorem History.valid (history : History entries state) : state.Valid availableChapters := by
  apply History.induct (motive := fun _ state => state.Valid availableChapters) _ _ history
  · exact CampaignState.default_valid
  · intro _ entry _ accepted _
    exact accepted.step.2.2.mono entry.policy.available_le

theorem Entry.Accepted.revision (accepted : entry.Accepted) :
    entry.after.revision = entry.before.revision + 1 := by
  obtain ⟨-, step, -⟩ := accepted.step
  rcases entry with ⟨policy, command, before, after, firstClear⟩
  dsimp only at step ⊢
  cases step <;> rfl

/-! ## First clears -/

/-- A grant is the clear of an active progress run of the next chapter. -/
theorem Entry.Accepted.grant (accepted : entry.Accepted) :
    (entry.firstClear = none ∧ entry.after.clearedChapters = entry.before.clearedChapters) ∨
    ∃ run milestone, entry.before.active = some run ∧ run.mode = .progress ∧
      entry.command = .confirm run.runId milestone ∧
      run.chapter.index = entry.before.clearedChapters ∧
      entry.after.clearedChapters = entry.before.clearedChapters + 1 ∧
      entry.firstClear = some { chapter := run.chapter, fragments := firstClearFragments
                                experience := firstClearExperience } := by
  obtain ⟨ready, step, -⟩ := accepted.step
  have runs := ready.valid.run
  rcases entry with ⟨policy, command, before, after, firstClear⟩
  dsimp only at step runs ⊢
  cases step with
  | story | enter | confirm => exact Or.inl ⟨rfl, rfl⟩
  | @complete run milestone active next full =>
      have admits := (runs run active).admits
      unfold CampaignState.Admits at admits
      cases mode : run.mode with
      | progress =>
          rw [mode] at admits
          have clear : clearOf run = some ⟨run.chapter, firstClearFragments,
              firstClearExperience⟩ := by
            unfold clearOf
            rw [mode]
          refine Or.inr ⟨run, milestone, active, mode, rfl, admits, ?_, clear⟩
          rw [clear]
          rfl
      | practice =>
          have clear : clearOf run = none := by
            unfold clearOf
            rw [mode]
          refine Or.inl ⟨clear, ?_⟩
          rw [clear]
          rfl

/-- The grants of a history are the first clears of the cleared chapters, in
their order. -/
theorem History.grants (history : History entries state) :
    (entries.filterMap Entry.firstClear).map (·.chapter) =
      ChapterId.all.take state.clearedChapters := by
  apply History.induct (motive := fun entries state =>
    (entries.filterMap Entry.firstClear).map (·.chapter) =
      ChapterId.all.take state.clearedChapters) _ _ history
  · rfl
  · intro entries entry _ accepted inductionHypothesis
    rw [List.filterMap_append, List.map_append, inductionHypothesis]
    rcases accepted.grant with ⟨silent, same⟩ | ⟨run, _, _, _, _, next, cleared, granted⟩
    · rw [same]
      simp [silent]
    · rw [cleared, ← next, ChapterId.take_index]
      simp [granted]

/-! ## Runs -/

/-- One run of a history: the order its milestones had when it was entered, and
the milestones it confirmed. -/
structure RunLog where
  chapter : ChapterId
  mode : RunMode
  order : List Milestone
  confirmed : List Milestone
  deriving DecidableEq, Repr

/-- The logs, newest first, after one more entry. -/
def record (logs : List RunLog) (entry : Entry) : List RunLog :=
  match entry.command with
  | .enter _ chapter mode =>
      { chapter, mode, order := entry.before.milestones chapter, confirmed := [] } :: logs
  | .confirm _ milestone =>
      match logs with
      | [] => []
      | log :: rest => { log with confirmed := log.confirmed ++ [milestone] } :: rest
  | .story _ _ _ => logs

def runLogs (entries : List Entry) : List RunLog := entries.foldl record []

theorem runLogs_snoc (entries : List Entry) (entry : Entry) :
    runLogs (entries ++ [entry]) = record (runLogs entries) entry := by
  simp [runLogs]

/-- The order of a run is one of its chapter's milestones, each once, and the
confirmed ones are the first of them. -/
structure RunLog.Ordered (log : RunLog) : Prop where
  once : log.order.Nodup
  own : log.order.Perm log.chapter.milestones
  inOrder : log.confirmed <+: log.order

/-- The finished runs confirmed all their milestones, and the active run stands
where its checkpoint says. -/
structure Logged (state : CampaignState) (logs : List RunLog) : Prop where
  ordered : ∀ log ∈ logs, log.Ordered
  idle : state.active = none → ∀ log ∈ logs, log.confirmed = log.order
  active : ∀ run ∈ state.active, ∃ log rest, logs = log :: rest ∧
    (∀ old ∈ rest, old.confirmed = old.order) ∧ log.chapter = run.chapter ∧ log.mode = run.mode ∧
    log.order = state.milestones run.chapter ∧ log.confirmed = log.order.take run.checkpoint

/-- A story step keeps the order of the active run. -/
theorem milestones_of_story {run : ChapterRun} {position : Position} {action : Story.Command}
    {story : Story.StoryState} (proposed : state.story.propose
      { chapter := run.chapter, checkpoint := run.checkpoint, position } action = .ok story) :
    CampaignState.milestones { advanced state with story } run.chapter =
      state.milestones run.chapter := by
  have kept := (Story.propose_ok proposed).2
  unfold CampaignState.milestones
  by_cases breach : run.chapter = .theBreach
  · -- The core choice belongs to another chapter.
    have same : story.core = state.story.core := kept (by simp [breach])
    unfold Story.StoryState.coreApproach
    simp only [same]
  · simp only [breach, false_and, if_false]

theorem Logged.step {logs : List RunLog} (accepted : entry.Accepted)
    (logged : Logged entry.before logs) : Logged entry.after (record logs entry) := by
  obtain ⟨ready, step, -⟩ := accepted.step
  have runs := ready.valid.run
  rcases entry with ⟨policy, command, before, after, firstClear⟩
  dsimp only at step runs logged ⊢
  cases step with
  | @story run position action story active proposed =>
      obtain ⟨log, rest, split, finished, chapter, mode, order, confirmed⟩ := logged.active run active
      constructor
      · exact logged.ordered
      · intro idle
        rw [show before.active = none from idle] at active
        cases active
      · intro other present
        have same : other = run := by
          rw [show before.active = some other from present] at active
          exact Option.some.inj active
        subst same
        refine ⟨log, rest, split, finished, chapter, mode, ?_, confirmed⟩
        rw [milestones_of_story proposed]
        exact order
  | @enter runId chapter mode plain idle published admits =>
      constructor
      · intro log member
        rcases List.mem_cons.mp member with rfl | old
        · exact ⟨before.milestones_nodup chapter, before.milestones_perm chapter, List.nil_prefix⟩
        · exact logged.ordered log old
      · intro impossible
        cases impossible
      · intro run present
        cases present
        exact ⟨_, logs, rfl, logged.idle idle, rfl, rfl, rfl, rfl⟩
  | @confirm run milestone active next open' =>
      obtain ⟨log, rest, rfl, finished, chapter, mode, order, confirmed⟩ :=
        logged.active run active
      have own := logged.ordered log List.mem_cons_self
      have grown : log.confirmed ++ [milestone] = log.order.take (run.checkpoint + 1) := by
        unfold CampaignState.nextMilestone at next
        rw [active] at next
        rw [List.take_add_one, confirmed, order]
        change (before.milestones run.chapter)[run.checkpoint]? = some milestone at next
        rw [next]
        rfl
      constructor
      · intro other member
        rcases List.mem_cons.mp member with rfl | old
        · exact ⟨own.once, own.own, grown ▸ List.take_prefix _ _⟩
        · exact logged.ordered other (List.mem_cons_of_mem _ old)
      · intro impossible
        cases impossible
      · intro other present
        cases present
        exact ⟨_, rest, rfl, finished, chapter, mode, order, grown⟩
  | @complete run milestone active next full =>
      obtain ⟨log, rest, rfl, finished, chapter, mode, order, confirmed⟩ :=
        logged.active run active
      have own := logged.ordered log List.mem_cons_self
      have grown : log.confirmed ++ [milestone] = log.order := by
        unfold CampaignState.nextMilestone at next
        rw [active] at next
        change (before.milestones run.chapter)[run.checkpoint]? = some milestone at next
        have whole : log.order.take (run.checkpoint + 1) = log.order := by
          rw [full, ← chapter, ← own.own.length_eq]
          exact List.take_length
        rw [← whole, List.take_add_one, confirmed, order, next]
        rfl
      constructor
      · intro other member
        rcases List.mem_cons.mp member with rfl | old
        · exact ⟨own.once, own.own, grown ▸ List.prefix_refl _⟩
        · exact logged.ordered other (List.mem_cons_of_mem _ old)
      · intro _ other member
        rcases List.mem_cons.mp member with rfl | old
        · exact grown
        · exact finished other old
      · intro other impossible
        cases impossible

theorem History.logged (history : History entries state) : Logged state (runLogs entries) := by
  apply History.induct (motive := fun entries state => Logged state (runLogs entries)) _ _ history
  · constructor
    · intro log impossible
      cases impossible
    · intro _ log impossible
      cases impossible
    · intro run impossible
      cases impossible
  · intro entries entry _ accepted inductionHypothesis
    rw [runLogs_snoc]
    exact inductionHypothesis.step accepted

/-! ## The story -/

theorem Entry.Accepted.forward (accepted : entry.Accepted) :
    Story.Forward entry.before.story entry.after.story := by
  obtain ⟨-, step, -⟩ := accepted.step
  rcases entry with ⟨policy, command, before, after, firstClear⟩
  dsimp only at step ⊢
  cases step with
  | story active proposed => exact (Story.propose_ok proposed).1
  | enter | confirm | complete => exact Story.Forward.refl _

/-- The records of any earlier save of a history are no further than the later ones. -/
theorem History.forward (history : History entries state) :
    ∀ earlier later middle, entries = earlier ++ later → History earlier middle →
      Story.Forward middle.story state.story := by
  apply History.induct (motive := fun entries state =>
    ∀ earlier later middle, entries = earlier ++ later → History earlier middle →
      Story.Forward middle.story state.story) _ _ history
  · intro earlier later middle split past
    have empty : earlier = [] := (List.append_eq_nil_iff.mp split.symm).1
    subst empty
    rw [← Chain.nil_iff.mp past.chain]
    exact Story.Forward.refl _
  · intro entries entry history accepted inductionHypothesis earlier later middle split past
    rcases List.eq_nil_or_concat later with rfl | ⟨rest, last, rfl⟩
    · rw [List.append_nil] at split
      subst split
      have reached := Chain.snoc_iff.mp past.chain
      rw [← reached.2]
      exact Story.Forward.refl _
    · rw [List.concat_eq_append, ← List.append_assoc] at split
      have same := (List.append_inj' split rfl).1
      exact (inductionHypothesis earlier rest middle same past).trans accepted.forward

/-! ## The whole history -/

/-- What every history of accepted proposals keeps, under any mix of policies:
the save is valid and no proposal on it fails at the last validation, clears are
granted once and in the order of the chapters, and the logs of the runs agree
with the save. -/
theorem campaign_progress {entries : List Entry} {state : CampaignState}
    (history : History entries state) :
    state.validate = .ok () ∧
    (∀ policy expectedRevision command outcome,
      attempt policy state expectedRevision command = .ok outcome →
        proposePolicy policy state expectedRevision command =
          .ok ⟨policy.text, state, command, outcome.after, outcome.firstClear⟩) ∧
    (entries.filterMap Entry.firstClear).map (·.chapter) =
      ChapterId.all.take state.clearedChapters ∧
    (entries.filterMap Entry.firstClear).length = state.clearedChapters ∧
    (∀ entry ∈ entries, entry.firstClear.isSome → ∃ run milestone,
      entry.before.active = some run ∧ run.mode = .progress ∧
        entry.command = .confirm run.runId milestone) ∧
    (∀ entry ∈ entries, entry.after.revision = entry.before.revision + 1) ∧
    Logged state (runLogs entries) ∧
    (∀ earlier later middle, entries = earlier ++ later → History earlier middle →
      Story.Forward middle.story state.story) ∧
    ∀ older newer, older.order ≤ newer.order → ∀ expectedRevision command transition,
      proposePolicy older state expectedRevision command = .ok transition →
        proposePolicy newer state expectedRevision command =
          .ok { transition with revision := newer.text } := by
  refine ⟨CampaignState.validateAvailable_iff.mpr history.valid, ?_, history.grants, ?_, ?_, ?_,
    history.logged, history.forward, ?_⟩
  · intro policy expectedRevision command outcome attempted
    exact propose_of_attempt attempted
  · have length := congrArg List.length history.grants
    have cleared := history.valid.cleared
    rw [List.length_map, List.length_take] at length
    rw [length]
    exact Nat.min_eq_left cleared
  · intro entry member granted
    rcases (history.accepted entry member).grant with ⟨silent, -⟩ | ⟨run, milestone, found, mode, asked, -⟩
    · rw [silent] at granted
      cases granted
    · exact ⟨run, milestone, found, mode, asked⟩
  · intro entry member
    exact (history.accepted entry member).revision
  · intro older newer later expectedRevision command transition accepted
    exact propose_newer later accepted

/-! ## A first chapter cleared -/

def enteredRun (checkpoint : Nat) : ChapterRun :=
  { runId := "run-1", chapter := .returnSignal, mode := .progress, checkpoint }

def enteredState (revision checkpoint : Nat) : CampaignState :=
  { CampaignState.default with revision, active := some (enteredRun checkpoint) }

def clearedState : CampaignState :=
  { CampaignState.default with revision := 3, clearedChapters := 1 }

/-- The first chapter, entered under the oldest policy and finished under newer ones. -/
def clearedEntries : List Entry :=
  [{ policy := .legacy, command := .enter "run-1" .returnSignal .progress
     before := .default, after := enteredState 1 0, firstClear := none },
   { policy := .supply, command := .confirm "run-1" .relayGuardCleared
     before := enteredState 1 0, after := enteredState 2 1, firstClear := none },
   { policy := .current, command := .confirm "run-1" .returnSignalRecovered
     before := enteredState 2 1, after := clearedState
     firstClear := some { chapter := .returnSignal, fragments := 1, experience := 100 } }]

theorem cleared_history : History clearedEntries clearedState := by
  constructor
  · exact Chain.cons_iff.mpr ⟨rfl, Chain.cons_iff.mpr ⟨rfl, Chain.cons_iff.mpr ⟨rfl, Chain.nil _⟩⟩⟩
  · intro entry member
    simp only [clearedEntries, List.mem_cons, List.not_mem_nil, or_false] at member
    rcases member with rfl | rfl | rfl <;> exact rfl

/-- One grant for the one cleared chapter. -/
theorem campaign_progress_cleared :
    clearedState.validate = .ok () ∧
      (clearedEntries.filterMap Entry.firstClear).map (·.chapter) = [.returnSignal] ∧
      Logged clearedState (runLogs clearedEntries) := by
  obtain ⟨valid, -, grants, -, -, -, logged, -⟩ := campaign_progress cleared_history
  exact ⟨valid, grants, logged⟩

end Campaign
end Revenant
