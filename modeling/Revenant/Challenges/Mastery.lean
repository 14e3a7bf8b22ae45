import Revenant.Challenges.State
import Mathlib.Data.List.Sort

namespace Revenant
namespace Challenges

/-!
# Mastery

Distinctions derived from verified attempts.  An archive keeps for each goal the
earliest run that achieved it, and the assessment of the latest attempt.  The
facts about an attempt come from the replay of its session and stay a parameter:
nothing below depends on how they were found.
-/

inductive Goal where
  | breacher
  | marksman
  | guard
  | routePlanner
  | targetPriority
  | prismExecution
  deriving DecidableEq, Repr

namespace Goal

def all : List Goal :=
  [breacher, marksman, guard, routePlanner, targetPriority, prismExecution]

theorem mem_all (goal : Goal) : goal ∈ all := by
  cases goal <;> decide

def asStr : Goal → String
  | breacher => "breacher"
  | marksman => "marksman"
  | guard => "guard"
  | routePlanner => "route_planner"
  | targetPriority => "target_priority"
  | prismExecution => "prism_execution"

def contract : Goal → ContractId
  | breacher => .closeQuarters
  | marksman => .distantSignal
  | guard => .lastReserve
  | routePlanner => .meridianCircuit
  | targetPriority => .bastionLink
  | prismExecution => .prismDiscipline

def acceptsEquipment (goal : Goal) (equipment : Equipment) : Bool :=
  match goal with
  | breacher => build "scatter_caster" [.focusLens, .breachShunt]
  | marksman => build "rail_driver" [.standoffOptic, .skirmishDrive]
  | guard => build "pulse_rifle" [.cycleBypass, .ablativeShell]
  | routePlanner | targetPriority | prismExecution => true
where
  build (weapon : String) (modules : List ModuleId) : Bool :=
    equipment.weaponId == weapon && modules.all (fun id => equipment.modules.contains id)

/-- The place of a goal in the order of its declaration. -/
def order : Goal → Nat
  | breacher => 0
  | marksman => 1
  | guard => 2
  | routePlanner => 3
  | targetPriority => 4
  | prismExecution => 5

theorem order_inj {first second : Goal} (same : first.order = second.order) : first = second := by
  revert same
  cases first <;> cases second <;> decide

end Goal

/-- What the replay of an attempt's session says about it. -/
structure Facts where
  reserveUnused : Bool
  westRouteMoves : Option Nat
  menderBeforeBulwarkDamage : Bool
  prismDamage : Option Nat
  deriving DecidableEq, Repr

def Facts.default : Facts :=
  { reserveUnused := false, westRouteMoves := none, menderBeforeBulwarkDamage := false
    prismDamage := none }

inductive Reason where
  | achieved
  | completeContract
  | useBuild
  | preserveReserve
  | useWestRoute
  | reduceRouteMoves
  | menderFirst
  | avoidPrismDamage
  deriving DecidableEq, Repr

def Reason.asStr : Reason → String
  | achieved => "achieved"
  | completeContract => "complete_contract"
  | useBuild => "use_build"
  | preserveReserve => "preserve_reserve"
  | useWestRoute => "use_west_route"
  | reduceRouteMoves => "reduce_route_moves"
  | menderFirst => "mender_first"
  | avoidPrismDamage => "avoid_prism_damage"

structure Assessment where
  goal : Goal
  reason : Reason
  deriving DecidableEq, Repr

structure Attempt where
  runId : Nat
  assessments : List Assessment
  routeMoves : Option Nat
  prismDamage : Option Nat
  deriving DecidableEq, Repr

def westRouteMoveLimit : Nat := 40

/-- The reason for one goal of a completed run with the right equipment. -/
def completedReason (facts : Facts) : Goal → Reason
  | .guard => if facts.reserveUnused then .achieved else .preserveReserve
  | .routePlanner =>
      match facts.westRouteMoves with
      | none => .useWestRoute
      | some moves =>
          if moves = 0 ∨ moves > westRouteMoveLimit then .reduceRouteMoves else .achieved
  | .targetPriority => if facts.menderBeforeBulwarkDamage then .achieved else .menderFirst
  | .prismExecution => if facts.prismDamage = some 0 then .achieved else .avoidPrismDamage
  | .breacher | .marksman => .achieved

def assessGoal (result : AttemptResult) (facts : Facts) (goal : Goal) : Assessment :=
  { goal
    reason :=
      if result.outcome ≠ .completed then .completeContract
      else if goal.acceptsEquipment result.run.equipment = false then .useBuild
      else completedReason facts goal }

def assess (result : AttemptResult) (facts : Facts) : Attempt :=
  { runId := result.run.runId
    assessments := (Goal.all.filter (fun goal => goal.contract = result.run.rules.contract)).map
      (assessGoal result facts)
    routeMoves := facts.westRouteMoves
    prismDamage := facts.prismDamage }

structure MasteryRecord where
  goal : Goal
  runId : Nat
  deriving DecidableEq, Repr

inductive Badge where
  | arsenalAdept
  | fieldTactician
  | prismAdept
  deriving DecidableEq, Repr

namespace Badge

def all : List Badge := [arsenalAdept, fieldTactician, prismAdept]

def asStr : Badge → String
  | arsenalAdept => "arsenal_adept"
  | fieldTactician => "field_tactician"
  | prismAdept => "prism_adept"

def goals : Badge → List Goal
  | arsenalAdept => [.breacher, .marksman, .guard]
  | fieldTactician => [.routePlanner, .targetPriority]
  | prismAdept => [.prismExecution]

end Badge

structure BadgeRecord where
  badge : Badge
  runId : Nat
  deriving DecidableEq, Repr

structure Archive where
  records : List MasteryRecord
  lastAttempt : Option Attempt
  deriving DecidableEq, Repr

/-- The records after one more achievement of a goal. -/
def achieve (runId : Nat) (goal : Goal) : List MasteryRecord → List MasteryRecord
  | [] => [{ goal, runId }]
  | record :: rest =>
      if record.goal = goal then { record with runId := min record.runId runId } :: rest
      else record :: achieve runId goal rest

/-- The goals an attempt achieved. -/
def Attempt.achieved (attempt : Attempt) : List Goal :=
  (attempt.assessments.filter (fun assessment => assessment.reason = .achieved)).map (·.goal)

namespace Archive

def default : Archive := { records := [], lastAttempt := none }

def observe (archive : Archive) (attempt : Attempt) : Archive :=
  { records := (attempt.achieved.foldl (fun records goal => achieve attempt.runId goal records)
      archive.records).insertionSort (fun left right => left.goal.order ≤ right.goal.order)
    lastAttempt :=
      match archive.lastAttempt with
      | none => some attempt
      | some last => if last.runId < attempt.runId then some attempt else some last }

/-- The run that proves a goal. -/
def runOf (archive : Archive) (goal : Goal) : Option Nat :=
  (archive.records.find? (fun record => record.goal = goal)).map (·.runId)

def badges (archive : Archive) : List BadgeRecord :=
  Badge.all.filterMap (fun badge => do
    let runs ← badge.goals.mapM archive.runOf
    let runId ← runs.max?
    return { badge, runId })

end Archive

/-- A recorded goal is found with its run. -/
theorem runOf_of_mem {archive : Archive} (distinct : (archive.records.map (·.goal)).Nodup)
    {record : MasteryRecord} (member : record ∈ archive.records) :
    archive.runOf record.goal = some record.runId := by
  unfold Archive.runOf
  cases found : archive.records.find? (fun other => other.goal = record.goal) with
  | none =>
      have absent := List.find?_eq_none.mp found record member
      simp at absent
  | some other =>
      have same : other.goal = record.goal := by simpa using List.find?_some found
      have injective := List.inj_on_of_nodup_map distinct
      rw [injective (List.mem_of_find?_eq_some found) member same]
      rfl

/-- The badges of an archive are some of all badges, in their order. -/
theorem Archive.badges_sublist (archive : Archive) :
    (archive.badges.map (·.badge)).Sublist Badge.all := by
  unfold Archive.badges
  generalize Badge.all = badges
  induction badges with
  | nil => exact List.Sublist.refl _
  | cons badge rest inductionHypothesis =>
      rw [List.filterMap_cons]
      split
      · exact inductionHypothesis.cons badge
      · next made =>
          simp only [Option.bind_eq_bind, Option.pure_def, Option.bind_eq_some_iff,
            Option.some.injEq] at made
          obtain ⟨runs, -, latest, -, rfl⟩ := made
          exact inductionHypothesis.cons_cons badge

/-! ## Observed achievements -/

variable {records : List MasteryRecord}

/-- Where a record comes from. -/
theorem mem_achieve {runId : Nat} {goal : Goal} {record : MasteryRecord}
    (member : record ∈ achieve runId goal records) :
    record ∈ records ∨ (record.goal = goal ∧
      (record.runId = runId ∨ ∃ old ∈ records, old.goal = goal ∧ old.runId = record.runId)) := by
  induction records with
  | nil =>
      simp only [achieve, List.mem_singleton] at member
      subst member
      exact Or.inr ⟨rfl, Or.inl rfl⟩
  | cons first rest inductionHypothesis =>
      simp only [achieve] at member
      split at member
      · next same =>
          rcases List.mem_cons.mp member with rfl | old
          · refine Or.inr ⟨same, ?_⟩
            rcases Nat.le_total first.runId runId with earlier | later
            · exact Or.inr ⟨first, List.mem_cons_self, same, (Nat.min_eq_left earlier).symm⟩
            · exact Or.inl (Nat.min_eq_right later)
          · exact Or.inl (List.mem_cons_of_mem _ old)
      · rcases List.mem_cons.mp member with rfl | old
        · exact Or.inl List.mem_cons_self
        · rcases inductionHypothesis old with present | ⟨same, origin⟩
          · exact Or.inl (List.mem_cons_of_mem _ present)
          · refine Or.inr ⟨same, origin.imp id ?_⟩
            rintro ⟨other, present, equal⟩
            exact ⟨other, List.mem_cons_of_mem _ present, equal⟩

/-- No goal gets a second record. -/
theorem nodup_achieve {runId : Nat} {goal : Goal} (distinct : (records.map (·.goal)).Nodup) :
    ((achieve runId goal records).map (·.goal)).Nodup := by
  have goals : ∀ records : List MasteryRecord, ∀ other ∈ (achieve runId goal records).map (·.goal),
      other ∈ records.map (·.goal) ∨ other = goal := by
    intro records other member
    obtain ⟨record, present, rfl⟩ := List.mem_map.mp member
    rcases mem_achieve present with old | ⟨same, -⟩
    · exact Or.inl (List.mem_map_of_mem old)
    · exact Or.inr same
  induction records with
  | nil => exact List.nodup_singleton _
  | cons first rest inductionHypothesis =>
      rw [List.map_cons, List.nodup_cons] at distinct
      simp only [achieve]
      split
      · rw [List.map_cons, List.nodup_cons]
        exact distinct
      · next other =>
          rw [List.map_cons, List.nodup_cons]
          refine ⟨?_, inductionHypothesis distinct.2⟩
          intro repeated
          rcases goals rest _ repeated with old | same
          · exact distinct.1 old
          · exact other same

/-- The goal has a record no later than the run, and no record gets later. -/
theorem exists_achieve (runId : Nat) (goal : Goal) (records : List MasteryRecord) :
    ∃ record ∈ achieve runId goal records, record.goal = goal ∧ record.runId ≤ runId := by
  induction records with
  | nil => exact ⟨{ goal, runId }, List.mem_cons_self, rfl, le_refl _⟩
  | cons first rest inductionHypothesis =>
      simp only [achieve]
      split
      · next same => exact ⟨_, List.mem_cons_self, same, Nat.min_le_right _ _⟩
      · obtain ⟨record, member, found⟩ := inductionHypothesis
        exact ⟨record, List.mem_cons_of_mem _ member, found⟩

theorem achieve_mono (runId : Nat) (goal : Goal) :
    ∀ old ∈ records, ∃ record ∈ achieve runId goal records,
      record.goal = old.goal ∧ record.runId ≤ old.runId := by
  induction records with
  | nil =>
      intro old impossible
      cases impossible
  | cons first rest inductionHypothesis =>
      intro old member
      simp only [achieve]
      split
      · rcases List.mem_cons.mp member with rfl | present
        · exact ⟨_, List.mem_cons_self, rfl, Nat.min_le_left _ _⟩
        · exact ⟨old, List.mem_cons_of_mem _ present, rfl, le_refl _⟩
      · rcases List.mem_cons.mp member with rfl | present
        · exact ⟨old, List.mem_cons_self, rfl, le_refl _⟩
        · obtain ⟨record, found, earlier⟩ := inductionHypothesis old present
          exact ⟨record, List.mem_cons_of_mem _ found, earlier⟩

/-- The records of an archive, with what each run of the given kind proves. -/
structure RecordsSound (records : List MasteryRecord) (Proves : Goal → Nat → Prop) : Prop where
  distinct : (records.map (·.goal)).Nodup
  proved : ∀ record ∈ records, Proves record.goal record.runId

variable {Proves : Goal → Nat → Prop}

theorem RecordsSound.mono {Stronger : Goal → Nat → Prop} (sound : RecordsSound records Proves)
    (implies : ∀ goal runId, Proves goal runId → Stronger goal runId) :
    RecordsSound records Stronger :=
  ⟨sound.distinct, fun record member => implies _ _ (sound.proved record member)⟩

theorem RecordsSound.achieve {runId : Nat} {goal : Goal} (sound : RecordsSound records Proves)
    (proves : Proves goal runId) : RecordsSound (achieve runId goal records) Proves := by
  constructor
  · exact nodup_achieve sound.distinct
  · intro record member
    rcases mem_achieve member with old | ⟨rfl, same | ⟨old, present, goal, run⟩⟩
    · exact sound.proved record old
    · rw [same]
      exact proves
    · rw [← run, ← goal]
      exact sound.proved old present

/-- One observation: the records stay sound, nothing gets later, and what the
attempt achieved has a record no later than the attempt. -/
theorem Archive.observe_records {archive : Archive} {attempt : Attempt}
    (sound : RecordsSound archive.records Proves)
    (proves : ∀ goal ∈ attempt.achieved, Proves goal attempt.runId) :
    RecordsSound (archive.observe attempt).records Proves ∧
      ∀ goal ∈ attempt.achieved, ∃ record ∈ (archive.observe attempt).records,
        record.goal = goal ∧ record.runId ≤ attempt.runId := by
  have folded : ∀ (goals : List Goal) (records : List MasteryRecord),
      (∀ goal ∈ goals, Proves goal attempt.runId) → RecordsSound records Proves →
      RecordsSound (goals.foldl (fun records goal => Challenges.achieve attempt.runId goal records)
        records) Proves ∧
      (∀ old ∈ records, ∃ record ∈ goals.foldl
        (fun records goal => Challenges.achieve attempt.runId goal records) records,
        record.goal = old.goal ∧ record.runId ≤ old.runId) ∧
      ∀ goal ∈ goals, ∃ record ∈ goals.foldl
        (fun records goal => Challenges.achieve attempt.runId goal records) records,
        record.goal = goal ∧ record.runId ≤ attempt.runId := by
    intro goals
    induction goals with
    | nil =>
        intro records _ sound
        refine ⟨sound, ?_, ?_⟩
        · intro old member
          exact ⟨old, member, rfl, le_refl _⟩
        · intro goal impossible
          cases impossible
    | cons first rest inductionHypothesis =>
        intro records proved sound
        obtain ⟨soundRest, mono, exists'⟩ := inductionHypothesis
          (Challenges.achieve attempt.runId first records)
          (fun goal member => proved goal (List.mem_cons_of_mem _ member))
          (sound.achieve (proved first List.mem_cons_self))
        rw [List.foldl_cons]
        refine ⟨soundRest, ?_, ?_⟩
        · intro old member
          obtain ⟨kept, keptMember, keptGoal, keptRun⟩ :=
            achieve_mono attempt.runId first old member
          obtain ⟨record, present, goal, run⟩ := mono kept keptMember
          exact ⟨record, present, goal.trans keptGoal, le_trans run keptRun⟩
        · intro goal member
          rcases List.mem_cons.mp member with rfl | later
          · obtain ⟨own, ownMember, ownGoal, ownRun⟩ := exists_achieve attempt.runId goal records
            obtain ⟨record, present, same, run⟩ := mono own ownMember
            exact ⟨record, present, same.trans ownGoal, le_trans run ownRun⟩
          · exact exists' goal later
  obtain ⟨soundAll, -, achieved⟩ := folded attempt.achieved archive.records proves sound
  have sorted := List.perm_insertionSort
    (fun left right : MasteryRecord => left.goal.order ≤ right.goal.order)
    (attempt.achieved.foldl (fun records goal => Challenges.achieve attempt.runId goal records)
      archive.records)
  constructor
  · constructor
    · exact (sorted.map (·.goal)).nodup_iff.mpr soundAll.distinct
    · intro record member
      exact soundAll.proved record (sorted.mem_iff.mp member)
  · intro goal member
    obtain ⟨record, present, found⟩ := achieved goal member
    exact ⟨record, sorted.mem_iff.mpr present, found⟩

end Challenges
end Revenant
