import Revenant.Activities.Firing

namespace Revenant
namespace Activities

open Library

/-!
# Completing an activity

One trigger precedes another when it activates what the other completes, and
every trigger precedes the terminal one.  A cycle of triggers would be a cycle of
objectives, so the triggers can be put in an order in which everything a trigger
completes was activated before, and nothing is activated after it was completed.

Orders are lists of triggers.  `Ready` asks of each that what it completes is
active and nothing it activates was completed before, so an order that is
ready can be played event by event in the script itself.  The example forks
and joins again.
-/

namespace ScriptedActivity

/-- The first trigger activates what the second completes. -/
def Feeds (script : ScriptedActivity) (first second : TriggerDefinition) : Prop :=
  first ∈ script.triggers ∧ second ∈ script.triggers ∧
    ∃ id ∈ first.activate, id ∈ second.complete

def Precedes (script : ScriptedActivity) (first second : TriggerDefinition) : Prop :=
  script.Feeds first second ∨ (first ∈ script.triggers ∧
    first.completeActivity = false ∧ second.completeActivity = true)

/-- Each trigger of an order finds active what it completes, and activates
nothing that was completed. -/
def Ready (script : ScriptedActivity) (order : List TriggerDefinition) : Prop :=
  ∀ front trigger back, order = front ++ trigger :: back →
    trigger ∈ script.triggers ∧ trigger ∉ front ∧
    (∀ id ∈ trigger.complete, script.standing id = some .active ∨
      id ∈ front.flatMap TriggerDefinition.activate) ∧
    ∀ id ∈ trigger.activate, id ∉ front.flatMap TriggerDefinition.complete

end ScriptedActivity

open ScriptedActivity

section Orders

variable {script : ScriptedActivity} {order : List TriggerDefinition}

/-! ## No cycle of triggers -/

/-- A path of triggers is a path of objectives. -/
theorem connected_of_feeds {first last : TriggerDefinition}
    (path : Relation.TransGen script.Feeds first last) :
    ∃ activated ∈ first.activate, ∃ completed ∈ last.complete,
      Relation.ReflTransGen script.Connects activated completed := by
  induction path with
  | single feeds =>
      obtain ⟨-, -, id, activated, completed⟩ := feeds
      exact ⟨id, activated, id, completed, .refl⟩
  | tail _ feeds inductionHypothesis =>
      obtain ⟨start, activated, middle, completed, connected⟩ := inductionHypothesis
      obtain ⟨member, -, id, activated', completed'⟩ := feeds
      exact ⟨start, activated, id, completed', connected.tail ⟨_, member, completed, activated'⟩⟩

theorem Authored.feeds_acyclic (authored : Authored script) : Acyclic script.Feeds := by
  intro trigger cycle
  obtain ⟨start, activated, last, completed, connected⟩ := connected_of_feeds cycle
  have member : trigger ∈ script.triggers := by
    cases cycle with
    | single feeds => exact feeds.1
    | tail _ feeds => exact feeds.2.1
  exact authored.acyclic start (Relation.TransGen.tail' connected
    ⟨trigger, member, completed, activated⟩)

theorem Authored.not_terminal_of_precedes (authored : Authored script)
    {first second : TriggerDefinition} (precedes : script.Precedes first second) :
    first.completeActivity = false := by
  rcases precedes with ⟨member, -, id, activated, -⟩ | ⟨-, other, -⟩
  · rw [← Bool.not_eq_true]
    intro terminal
    rw [(authored.wellformed first member).last terminal] at activated
    exact absurd activated List.not_mem_nil
  · exact other

/-- The terminal trigger precedes none, so it is on no cycle. -/
theorem Authored.precedes_acyclic (authored : Authored script) : Acyclic script.Precedes := by
  have either : ∀ {first last}, Relation.TransGen script.Precedes first last →
      last.completeActivity = true ∨ Relation.TransGen script.Feeds first last := by
    intro first last path
    induction path with
    | single precedes =>
        rcases precedes with feeds | ⟨-, -, terminal⟩
        · exact Or.inr (.single feeds)
        · exact Or.inl terminal
    | tail _ precedes inductionHypothesis =>
        have open' := authored.not_terminal_of_precedes precedes
        rcases precedes with feeds | ⟨-, -, terminal⟩
        · rcases inductionHypothesis with terminal | path
          · rw [terminal] at open'
            cases open'
          · exact Or.inr (path.tail feeds)
        · exact Or.inl terminal
  intro trigger cycle
  rcases either cycle with terminal | path
  · obtain ⟨next, precedes, -⟩ := Relation.TransGen.head'_iff.mp cycle
    rw [authored.not_terminal_of_precedes precedes] at terminal
    cases terminal
  · exact authored.feeds_acyclic trigger path

theorem Authored.exists_order (authored : Authored script) :
    ∃ order, order.Perm script.triggers ∧ Sorted script.Precedes order := by
  obtain ⟨order, same, sorted⟩ := authored.precedes_acyclic.exists_sorted script.triggers
  refine ⟨order, same, ?_⟩
  intro front trigger back split other precedes
  refine sorted front trigger back split other ⟨?_, precedes⟩
  rcases precedes with feeds | ⟨member, -⟩
  · exact feeds.1
  · exact member

theorem Authored.triggers_nodup (authored : Authored script) : script.triggers.Nodup :=
  authored.identities.of_map _

/-! ## Ready orders -/

theorem ScriptedActivity.Ready.of_append {front back : List TriggerDefinition}
    (ready : script.Ready (front ++ back)) : script.Ready front := by
  intro first trigger rest split
  refine ready first trigger (rest ++ back) ?_
  rw [split, List.append_assoc, List.cons_append]

theorem ScriptedActivity.Ready.member (ready : script.Ready order) {trigger : TriggerDefinition}
    (member : trigger ∈ order) : trigger ∈ script.triggers := by
  obtain ⟨front, back, split⟩ := List.append_of_mem member
  exact (ready front trigger back split).1

/-- A ready order fires. -/
theorem Authored.orderly_of_ready (authored : Authored script) (ready : script.Ready order) :
    script.Orderly (order.map TriggerDefinition.world) ∧
      Fired script order (script.after (order.map TriggerDefinition.world)) := by
  induction order using List.reverseRecOn with
  | nil =>
      exact ⟨orderly_nil, fired_nil⟩
  | append_singleton front trigger inductionHypothesis =>
      obtain ⟨orderly, now⟩ := inductionHypothesis ready.of_append
      obtain ⟨member, fresh, active, early⟩ := ready front trigger [] rfl
      have wellformed := authored.wellformed trigger member
      have found := authored.named_world member
      have earlier : ∀ other ∈ front, other ∈ script.triggers :=
        fun other inside => ready.of_append.member inside
      rw [List.map_append, List.map_singleton, after_snoc]
      refine ⟨orderly.snoc ?_ ?_, now.snoc found wellformed.apart early⟩
      · intro repeated
        obtain ⟨other, inside, same⟩ := List.mem_map.mp repeated
        have named := authored.named_world (earlier other inside)
        rw [same, found] at named
        exact fresh (Option.some.inj named ▸ inside)
      · intro definition named id completes
        rw [now.named, found] at named
        cases named
        refine now.active (wellformed.known id (List.mem_append_left _ completes)) ?_
          (active id completes)
        -- nothing else completes the objective
        intro completed
        obtain ⟨other, inside, completes'⟩ := List.mem_flatMap.mp completed
        have same := authored.completer_unique (earlier other inside) member completes' completes
        exact fresh (same ▸ inside)

/-- A selection of the triggers is ready when it supplies what it completes. -/
theorem Authored.ready_filter (authored : Authored script) (perm : order.Perm script.triggers)
    (sorted : Sorted script.Precedes order) (chosen : TriggerDefinition → Bool)
    (supplied : ∀ trigger ∈ script.triggers, chosen trigger = true → ∀ id ∈ trigger.complete,
      script.standing id = some .active ∨
        ∃ other ∈ script.triggers, chosen other = true ∧ id ∈ other.activate) :
    script.Ready (order.filter chosen) := by
  intro front trigger back split
  obtain ⟨first, rest, rfl, rfl, remaining⟩ := List.filter_eq_append_iff.mp split
  obtain ⟨middle, last, rfl, skipped, taken, -⟩ := List.filter_eq_cons_iff.mp remaining
  have distinct := perm.nodup_iff.mpr authored.triggers_nodup
  have whole : first ++ (middle ++ trigger :: last) = (first ++ middle) ++ trigger :: last :=
    (List.append_assoc _ _ _).symm
  rw [whole] at distinct perm sorted
  have member : trigger ∈ script.triggers :=
    perm.mem_iff.mp (List.mem_append_right _ List.mem_cons_self)
  have fresh : trigger ∉ first ++ middle :=
    fun early => (List.nodup_append.mp distinct).2.2 trigger early trigger List.mem_cons_self rfl
  have known : ∀ other ∈ first.filter chosen, other ∈ script.triggers :=
    fun other inside => perm.mem_iff.mp
      (List.mem_append_left _ (List.mem_append_left _ (List.mem_filter.mp inside).1))
  refine ⟨member, fun early => fresh (List.mem_append_left _ (List.mem_filter.mp early).1), ?_, ?_⟩
  · intro id completes
    rcases supplied trigger member taken id completes with initial | ⟨other, inside, chosen', activates⟩
    · exact Or.inl initial
    · refine Or.inr (List.mem_flatMap.mpr ⟨other, ?_, activates⟩)
      rcases List.mem_append.mp (sorted _ trigger last rfl other
        (Or.inl ⟨inside, member, id, activates, completes⟩)) with early | passed
      · exact List.mem_filter.mpr ⟨early, chosen'⟩
      · exact absurd chosen' (skipped other passed)
  · intro id activates completed
    obtain ⟨other, inside, completes⟩ := List.mem_flatMap.mp completed
    -- the trigger stands before the other one, which stands before it
    have feeds : script.Precedes trigger other :=
      Or.inl ⟨member, known other inside, id, activates, completes⟩
    obtain ⟨before, between, rfl⟩ := List.append_of_mem (List.mem_filter.mp inside).1
    have earlier := sorted before other (between ++ middle ++ trigger :: last)
      (by simp only [List.append_assoc, List.cons_append]) trigger feeds
    exact fresh (List.mem_append_left _ (List.mem_append_left _ earlier))

/-- The terminal trigger ends the order. -/
theorem Authored.terminal_last (authored : Authored script) (perm : order.Perm script.triggers)
    (sorted : Sorted script.Precedes order) :
    ∃ front last, order = front ++ [last] ∧ last.completeActivity = true := by
  have one := (perm.countP_eq TriggerDefinition.completeActivity).trans authored.terminal
  obtain ⟨terminal, member, final⟩ := List.countP_pos_iff.mp (by rw [one]; exact Nat.one_pos)
  obtain ⟨front, back, rfl⟩ := List.append_of_mem member
  refine ⟨front, terminal, ?_, final⟩
  cases back with
  | nil => rfl
  | cons other back =>
      exfalso
      have distinct := perm.nodup_iff.mpr authored.triggers_nodup
      have open' : other.completeActivity = false := by
        rw [← Bool.not_eq_true]
        intro final'
        rw [List.countP_append, List.countP_cons_of_pos final, List.countP_cons_of_pos final'] at one
        omega
      have inside : other ∈ script.triggers := perm.mem_iff.mp (by simp)
      have early := sorted front terminal (other :: back) rfl other (Or.inr ⟨inside, open', final⟩)
      exact (List.nodup_append.mp distinct).2.2 other early other (by simp) rfl

/-- The end is announced once for each terminal trigger. -/
theorem Authored.count_emitted (authored : Authored script)
    (members : ∀ trigger ∈ order, trigger ∈ script.triggers) :
    (script.emitted (order.map TriggerDefinition.world)).count (.completed script.id) =
      order.countP TriggerDefinition.completeActivity ∧
    (script.after (order.map TriggerDefinition.world)).triggers = script.triggers ∧
    (script.after (order.map TriggerDefinition.world)).id = script.id := by
  induction order using List.reverseRecOn with
  | nil => exact ⟨rfl, rfl, rfl⟩
  | append_singleton front trigger inductionHypothesis =>
      obtain ⟨count, triggers, identity⟩ := inductionHypothesis
        (fun other inside => members other (List.mem_append_left _ inside))
      have found := authored.named_world (members trigger (by simp))
      have named : (script.after (front.map TriggerDefinition.world)).named trigger.world =
          some trigger := by
        rw [ScriptedActivity.named, triggers]
        exact found
      obtain ⟨triggers', identity', -⟩ := @applyTrigger_frame
        (script.after (front.map TriggerDefinition.world)) trigger.world
      have announced := count_applyTrigger named
      rw [identity] at announced
      rw [List.map_append, List.map_singleton, after_snoc, emitted_append, List.countP_append]
      refine ⟨?_, triggers'.trans triggers, identity'.trans identity⟩
      rw [List.count_append, count, emitted, emitted, List.append_nil, announced,
        List.countP_singleton]

end Orders

/-! ## Completion -/

theorem routes_eq_nil {definition : AuthoringActivity} {activity : ParsedActivity}
    (parsed : parseDefinition definition = .ok activity) (plain : definition.routes = none) :
    activity.routes = [] := by
  simp only [parseDefinition, bind_eq_ok, exists_unit, pure_eq_ok, plain] at parsed
  obtain ⟨-, kind, -, reward, -, experience, -, objectives, -, triggers, -, routes, read, -, rfl⟩ :=
    parsed
  unfold parseRoutes at read
  split at read
  · cases read
    rfl
  · next impossible => cases impossible
  · cases read
  · next impossible => cases impossible

/-- The triggers of an accepted activity without routes can be fired in an order
that completes every objective and ends in the terminal trigger. -/
theorem parseDefinition_completable {definition : AuthoringActivity} {activity : ParsedActivity}
    (parsed : parseDefinition definition = .ok activity) (plain : definition.routes = none) :
    ∃ order : List TriggerDefinition, order.Perm activity.script.triggers ∧
      (∀ trigger ∈ order, activity.script.named trigger.world = some trigger) ∧
      activity.script.Orderly (order.map TriggerDefinition.world) ∧
      (∃ front last, order = front ++ [last] ∧ last.completeActivity = true) ∧
      (∀ objective ∈ (activity.script.after (order.map TriggerDefinition.world)).objectives,
        objective.state = .completed) ∧
      (activity.script.emitted (order.map TriggerDefinition.world)).count
        (.completed activity.script.id) = 1 := by
  have authored := authored_of_parse parsed (routes_eq_nil parsed plain)
  obtain ⟨order, perm, sorted⟩ := authored.exists_order
  have ready : activity.script.Ready order := by
    have all := authored.ready_filter perm sorted (fun _ => true) (by
      intro trigger member _ id completes
      obtain ⟨objective, inside, rfl⟩ := List.mem_map.mp
        ((authored.wellformed trigger member).known id (List.mem_append_left _ completes))
      rcases authored.provided objective inside with active | ⟨other, listed, activates⟩
      · exact Or.inl (active ▸ authored.standing inside)
      · exact Or.inr ⟨other, listed, rfl, activates⟩)
    rwa [List.filter_true] at all
  obtain ⟨orderly, now⟩ := authored.orderly_of_ready ready
  have members : ∀ trigger ∈ order, trigger ∈ activity.script.triggers :=
    fun trigger inside => perm.mem_iff.mp inside
  refine ⟨order, perm, fun trigger inside => authored.named_world (members trigger inside), orderly,
    authored.terminal_last perm sorted, ?_, ?_⟩
  · intro objective inside
    have known : objective.id ∈ activity.script.objectives.map Objective.id :=
      now.ids ▸ List.mem_map_of_mem inside
    have completed : objective.id ∈ order.flatMap TriggerDefinition.complete :=
      (perm.flatMap_right _).mem_iff.mpr (authored.completes _ known)
    have standing := (now.completed_iff known (authored.not_completed known)).mpr completed
    have distinct : ((activity.script.after (order.map TriggerDefinition.world)).objectives.map
        Objective.id).Nodup := now.ids ▸ authored.distinct
    rw [standing_of_mem distinct inside] at standing
    exact Option.some.inj standing
  · rw [(authored.count_emitted members).1, perm.countP_eq]
    exact authored.terminal

/-- A way that forks and joins again in front of the last two objectives. -/
def joinedWays : AuthoringActivity :=
  let area (id : String) (next : List String) : AuthoringTrigger :=
    { event := "AreaReached", subject := id, complete := [id], activate := next
      openDoor := none, spawnBoss := none, completeActivity := decide (next = []) }
  let objective (id state : String) : AuthoringObjective :=
    { id, kind := "ReachArea", state, target := 1 }
  { id := "joined_ways", authoringRevision := none, kind := some "campaign_chapter"
    reward := { itemId := "relay_core_fragment", quantity := 1 }, experience := 100
    objectives := [objective "fork" "Active", objective "left" "Pending", objective "right" "Pending",
      objective "join" "Pending", objective "exit" "Pending"]
    triggers := [area "fork" ["left", "right"], area "left" ["join"], area "right" ["join"],
      area "join" ["exit"], area "exit" []]
    routes := none }

def joinedScript : ScriptedActivity :=
  let area (id : String) (next : List String) : TriggerDefinition :=
    { event := "AreaReached", subject := id, complete := [id], activate := next
      openDoor := none, spawnBoss := none, completeActivity := decide (next = []) }
  { id := "joined_ways"
    objectives := [.reachArea "fork" .active, .reachArea "left" .pending, .reachArea "right" .pending,
      .reachArea "join" .pending, .reachArea "exit" .pending]
    triggers := [area "fork" ["left", "right"], area "left" ["join"], area "right" ["join"],
      area "join" ["exit"], area "exit" []] }

def joinedActivity : ParsedActivity :=
  { kind := .campaignChapter, reward := joinedWays.reward, experienceReward := 100
    script := joinedScript, routes := [] }

theorem joinedWays_parses : parseDefinition joinedWays = .ok joinedActivity := by decide +kernel

theorem joinedWays_completable : ∃ order : List TriggerDefinition,
    order.Perm joinedScript.triggers ∧ joinedScript.Orderly (order.map TriggerDefinition.world) := by
  obtain ⟨order, perm, -, orderly, -⟩ := parseDefinition_completable joinedWays_parses rfl
  exact ⟨order, perm, orderly⟩

end Activities
end Revenant
