import Revenant.Activities.Completion

namespace Revenant
namespace Activities

open Library ScriptedActivity

/-!
# Objectives that are activated again

A trigger sets the objectives it activates without looking at their states.  An
objective that two ways lead to can therefore be completed by the first way and
activated again by the second.  It is safe exactly when every trigger that
activates it must have fired before it can be completed.

The condition is exact.  It is stated over the triggers alone, and each
direction is used: a guarded script never falls back, and a script that is not
guarded is driven back by events that the world may really send.
-/

/-- The second trigger cannot fire before the first: it is the first, or it
completes an objective that only such triggers activate. -/
inductive Requires (script : ScriptedActivity) (needed : TriggerDefinition) :
    TriggerDefinition → Prop
  | self : Requires script needed needed
  | supply {trigger : TriggerDefinition} {id : String} (completes : id ∈ trigger.complete)
      (inactive : script.standing id ≠ some .active)
      (suppliers : ∀ other ∈ script.triggers, id ∈ other.activate → Requires script needed other) :
      Requires script needed trigger

/-- No completed objective is set back to active. -/
def NeverRegresses (script : ScriptedActivity) : Prop :=
  ∀ front back id, script.Orderly (front ++ back) →
    (script.after front).standing id = some .completed →
    (script.after (front ++ back)).standing id ≠ some .active

/-- Whatever activates an objective is required by what completes it. -/
def Guarded (script : ScriptedActivity) : Prop :=
  ∀ first ∈ script.triggers, ∀ second ∈ script.triggers, ∀ id ∈ first.activate,
    id ∈ second.complete → Requires script first second

section Guarded

variable {script : ScriptedActivity}

theorem known_of_standing {state : ScriptedActivity} {id : String} {current : ObjectiveState}
    (standing : state.standing id = some current) : id ∈ state.objectives.map Objective.id := by
  obtain ⟨objective, found, -⟩ := Option.map_eq_some_iff.mp standing
  exact List.mem_map.mpr ⟨objective, List.mem_of_find?_eq_some found, objective_id found⟩

/-- What the fired triggers require has fired, so they tell every state. -/
theorem Authored.fired_of_guarded (authored : Authored script) (guarded : Guarded script)
    {triggers : List WorldTrigger} (orderly : script.Orderly triggers) :
    Fired script (triggers.filterMap script.named) (script.after triggers) ∧
      ∀ trigger ∈ triggers.filterMap script.named, ∀ needed, Requires script needed trigger →
        needed ∈ triggers.filterMap script.named := by
  induction triggers using List.reverseRecOn with
  | nil => exact ⟨fired_nil, fun _ member => absurd member List.not_mem_nil⟩
  | append_singleton front trigger inductionHypothesis =>
      obtain ⟨now, closed⟩ := inductionHypothesis orderly.of_append
      have enabled := orderly.2 front trigger [] rfl
      have fresh : trigger ∉ front := fun early =>
        (List.nodup_append.mp orderly.1).2.2 trigger early trigger List.mem_cons_self rfl
      have members : ∀ other ∈ front.filterMap script.named, other ∈ script.triggers := by
        intro other fired
        obtain ⟨event, -, found⟩ := List.mem_filterMap.mp fired
        exact mem_of_named found
      rw [after_snoc, filterMap_snoc]
      cases found : script.named trigger with
      | none =>
          rw [applyTrigger_none ((now.named trigger).trans found), Option.toList_none,
            List.append_nil]
          exact ⟨now, closed⟩
      | some definition =>
          have member := mem_of_named found
          have wellformed := authored.wellformed definition member
          rw [Option.toList_some]
          constructor
          · refine now.snoc found wellformed.apart ?_
            intro id activates completed
            obtain ⟨other, fired, completes⟩ := List.mem_flatMap.mp completed
            have needed := closed other fired definition
              (guarded definition member other (members other fired) id activates completes)
            obtain ⟨event, early, named⟩ := List.mem_filterMap.mp needed
            exact fresh (eq_of_named named found ▸ early)
          · intro other fired needed requires
            rcases List.mem_append.mp fired with early | only
            · exact List.mem_append_left _ (closed other early needed requires)
            · rw [List.mem_singleton] at only
              subst only
              cases requires with
              | self => exact List.mem_append_right _ List.mem_cons_self
              | supply completes inactive suppliers =>
                  have active := enabled other ((now.named trigger).trans found) _ completes
                  have known := wellformed.known _ (List.mem_append_left _ completes)
                  rcases now.of_active known active with initial | activated
                  · exact absurd initial inactive
                  · obtain ⟨supplier, early, activates⟩ := List.mem_flatMap.mp activated
                    exact List.mem_append_left _ (closed supplier early needed
                      (suppliers supplier (members supplier early) activates))

theorem Authored.never_of_guarded (authored : Authored script) (guarded : Guarded script) :
    NeverRegresses script := by
  intro front back id orderly completed
  obtain ⟨early, -⟩ := authored.fired_of_guarded guarded orderly.of_append
  obtain ⟨late, -⟩ := authored.fired_of_guarded guarded orderly
  have known : id ∈ script.objectives.map Objective.id := early.ids ▸ known_of_standing completed
  have fresh := authored.not_completed known
  have kept : id ∈ ((front ++ back).filterMap script.named).flatMap TriggerDefinition.complete := by
    rw [List.filterMap_append, List.flatMap_append]
    exact List.mem_append_left _ ((early.completed_iff known fresh).mp completed)
  rw [(late.completed_iff known fresh).mpr kept]
  exact nofun

end Guarded

section Unguarded

variable {script : ScriptedActivity}

/-- In a sorted order of all triggers, what a trigger requires does not stand
behind it. -/
theorem Authored.requires_before (authored : Authored script) {order : List TriggerDefinition}
    (perm : order.Perm script.triggers) (sorted : Sorted script.Precedes order)
    {needed trigger : TriggerDefinition} (requires : Requires script needed trigger)
    {front back : List TriggerDefinition} (split : order = front ++ trigger :: back) :
    needed ∈ front ++ [trigger] := by
  induction requires generalizing front back with
  | self => simp
  | @supply trigger id completes inactive _ inductionHypothesis =>
      have member : trigger ∈ script.triggers := perm.mem_iff.mp (by simp [split])
      obtain ⟨objective, inside, rfl⟩ := List.mem_map.mp
        ((authored.wellformed trigger member).known id (List.mem_append_left _ completes))
      rcases authored.provided objective inside with active | ⟨other, listed, activates⟩
      · exact absurd (active ▸ authored.standing inside) inactive
      · have early := sorted front trigger back split other
          (Or.inl ⟨listed, member, _, activates, completes⟩)
        obtain ⟨before, between, rfl⟩ := List.append_of_mem early
        have found := @inductionHypothesis other listed activates before
          (between ++ trigger :: back) (by rw [split, List.append_assoc, List.cons_append])
        rw [List.mem_append, List.mem_singleton] at found
        rcases found with earlier | rfl
        · exact List.mem_append_left _ (List.mem_append_left _ earlier)
        · exact List.mem_append_left _ early

open Classical in
/-- The triggers that do not require the first one can be fired without it, the
second among them; then the first one is fired. -/
theorem Authored.guarded_of_never (authored : Authored script) (never : NeverRegresses script) :
    Guarded script := by
  intro first member second member' id activates completes
  by_contra free
  obtain ⟨order, perm, sorted⟩ := authored.exists_order
  have distinct := perm.nodup_iff.mpr authored.triggers_nodup
  let chosen (trigger : TriggerDefinition) : Bool := decide (¬ Requires script first trigger)
  have supplied : ∀ trigger ∈ script.triggers, ∀ id ∈ trigger.complete,
      (¬ Requires script first trigger ∨ trigger = first) → script.standing id = some .active ∨
        ∃ other ∈ script.triggers, chosen other = true ∧ id ∈ other.activate := by
    intro trigger listed id completes apart
    by_contra none
    push Not at none
    obtain ⟨inactive, all⟩ := none
    have suppliers : ∀ other ∈ script.triggers, id ∈ other.activate →
        Requires script first other := by
      intro other inside activates
      by_contra skipped
      exact all other inside (decide_eq_true skipped) activates
    rcases apart with apart | rfl
    · exact apart (.supply completes inactive suppliers)
    · -- the first trigger would have to stand before its own supplier
      obtain ⟨objective, inside, rfl⟩ := List.mem_map.mp
        ((authored.wellformed trigger listed).known id (List.mem_append_left _ completes))
      rcases authored.provided objective inside with active | ⟨other, present, feeds⟩
      · exact inactive (active ▸ authored.standing inside)
      · obtain ⟨front, back, split⟩ := List.append_of_mem (perm.mem_iff.mpr listed)
        have early := sorted front trigger back split other
          (Or.inl ⟨present, listed, _, feeds, completes⟩)
        obtain ⟨before, between, rfl⟩ := List.append_of_mem early
        have found := authored.requires_before perm sorted (suppliers other present feeds)
          (by rw [split, List.append_assoc, List.cons_append] : order = before ++ other ::
            (between ++ trigger :: back))
        have passed : trigger ∈ before ++ other :: between := by
          rw [List.mem_append, List.mem_singleton] at found
          rcases found with earlier | rfl
          · exact List.mem_append_left _ earlier
          · exact early
        rw [split] at distinct
        exact (List.nodup_append.mp distinct).2.2 trigger passed trigger List.mem_cons_self rfl
  have ready := authored.ready_filter perm sorted chosen (by
    intro trigger listed taken id completes
    exact supplied trigger listed id completes (Or.inl (of_decide_eq_true taken)))
  obtain ⟨orderly, now⟩ := authored.orderly_of_ready ready
  have skipped : first ∉ order.filter chosen := by
    intro taken
    exact of_decide_eq_true (List.mem_filter.mp taken).2 .self
  have found := authored.named_world member
  have wellformed := authored.wellformed first member
  have extended : script.Orderly ((order.filter chosen).map TriggerDefinition.world ++
      [first.world]) := by
    refine orderly.snoc ?_ ?_
    · intro repeated
      obtain ⟨other, inside, same⟩ := List.mem_map.mp repeated
      have named := authored.named_world (ready.member inside)
      rw [same, found] at named
      exact skipped (Option.some.inj named ▸ inside)
    · intro definition named id completes
      rw [now.named, found] at named
      cases named
      refine now.active (wellformed.known id (List.mem_append_left _ completes)) ?_ ?_
      · intro completed
        obtain ⟨other, inside, completes'⟩ := List.mem_flatMap.mp completed
        exact skipped (authored.completer_unique (ready.member inside) member completes' completes ▸
          inside)
      · rcases supplied first member id completes (Or.inr rfl) with initial | ⟨other, inside, taken, feeds⟩
        · exact Or.inl initial
        · exact Or.inr (List.mem_flatMap.mpr
            ⟨other, List.mem_filter.mpr ⟨perm.mem_iff.mpr inside, taken⟩, feeds⟩)
  have known := wellformed.known id (List.mem_append_right _ activates)
  have completed := (now.completed_iff known (authored.not_completed known)).mpr
    (List.mem_flatMap.mpr ⟨second, List.mem_filter.mpr
      ⟨perm.mem_iff.mpr member', decide_eq_true free⟩, completes⟩)
  have again := never _ _ id extended completed
  rw [after_snoc, standing_applyTrigger ((now.named _).trans found), if_pos activates, completed]
    at again
  exact again rfl

end Unguarded

/-- A completed objective of an accepted activity without routes never becomes
active again exactly when every trigger that activates an objective is required
by the one that completes it. -/
theorem neverRegresses_iff {definition : AuthoringActivity} {activity : ParsedActivity}
    (parsed : parseDefinition definition = .ok activity) (plain : definition.routes = none) :
    NeverRegresses activity.script ↔ Guarded activity.script := by
  have authored := authored_of_parse parsed (routes_eq_nil parsed plain)
  exact ⟨authored.guarded_of_never, authored.never_of_guarded⟩

/-- The left way leads through the join, and the right way opens it again. -/
theorem joinedScript_regresses : ¬ NeverRegresses joinedScript := by
  intro never
  have fork : joinedScript.Orderly [.areaReached "fork"] :=
    orderly_nil.snoc (by decide) (by decide +kernel)
  have left : joinedScript.Orderly [.areaReached "fork", .areaReached "left"] :=
    fork.snoc (by decide) (by decide +kernel)
  have join : joinedScript.Orderly [.areaReached "fork", .areaReached "left", .areaReached "join"] :=
    left.snoc (by decide) (by decide +kernel)
  have right := join.snoc (show WorldTrigger.areaReached "right" ∉ _ by decide) (by decide +kernel)
  exact never _ [.areaReached "right"] "join" right (by decide +kernel) (by decide +kernel)

theorem joinedWays_counterexample : ∃ definition activity,
    parseDefinition definition = .ok activity ∧ definition.routes = none ∧
      ¬ NeverRegresses activity.script :=
  ⟨joinedWays, joinedActivity, joinedWays_parses, rfl, joinedScript_regresses⟩

theorem joinedWays_not_guarded : ¬ Guarded joinedScript := by
  intro guarded
  exact joinedScript_regresses ((neverRegresses_iff joinedWays_parses rfl).mpr guarded)

end Activities
end Revenant
