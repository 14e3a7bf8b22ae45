import Revenant.Agreement.Background
import Revenant.Replay.Campaign

namespace Revenant
namespace Agreement

open Library Replay Gateway

/-!
# Tapes and mirrored enemies

The validators of the larger encounters read every row of the journal and keep
a copy of each enemy.  A row is ordinary when none of them objects to it; a
copy mirrors the live enemy as long as there is one.
-/

/-- A row of the encounter itself, of the mission's boss or completion, or of a
weapon swap. -/
def Ordinary (own : Payload → Bool) (row : ReplayEvent) : Prop :=
  match row.kind with
  | .fieldActivity | .enemyDied | .enemySpawned => own row.payload = true
  | .bossSpawned | .equipmentChanged | .activityCompleted | .lootGranted
  | .progressionGranted => True
  | _ => False

namespace Ordinary

variable {own : Payload → Bool} {row : ReplayEvent}

theorem notJoined (ordinary : Ordinary own row) : row.kind ≠ .playerJoined := by
  unfold Ordinary at ordinary
  intro kind
  simp only [kind] at ordinary

theorem notForeign (ordinary : Ordinary own row) : foreign own row = false := by
  unfold Ordinary at ordinary
  unfold foreign
  cases kind : row.kind <;> simp_all [ReplayEventKind.isRouteEvent,
    ReplayEventKind.isCooperationEvent]

theorem notBoundary (ordinary : Ordinary own row) : Campaign.isBoundary row = false := by
  unfold Ordinary at ordinary
  unfold Campaign.isBoundary
  cases kind : row.kind <;> simp_all

/-- The death of an enemy is told in the encounter's own words. -/
theorem ownDeath (ordinary : Ordinary own row) (died : row.kind = .enemyDied) :
    own row.payload = true := by
  unfold Ordinary at ordinary
  simpa only [died] using ordinary

/-- An ordinary row does not tell a death in foreign words, whichever deaths the
validator looks at. -/
theorem deaths_append {watched : ReplayEvent → Bool} {journal : List ReplayEvent}
    (deaths : ∀ event ∈ journal,
      (decide (event.kind = .enemyDied) && watched event && !own event.payload) = false)
    (ordinary : Ordinary own row) : ∀ event ∈ journal ++ [row],
      (decide (event.kind = .enemyDied) && watched event && !own event.payload) = false := by
  intro event member
  rcases List.mem_append.mp member with earlier | last
  · exact deaths event earlier
  · rw [List.mem_singleton.mp last]
    by_cases died : row.kind = .enemyDied
    · rw [ordinary.ownDeath died, Bool.not_true, Bool.and_false]
    · rw [decide_eq_false died, Bool.false_and, Bool.false_and]

end Ordinary

/-- What every prefix of a solo encounter's journal satisfies. -/
structure Tape {Encounter : Type} (own : Payload → Bool) (session : Session Encounter) : Prop where
  solo : SoloJournal own session.player.accountId session.player.actorId session.journal
  elsewhere : Campaign.inCounterSignal session.journal = false

namespace Tape

variable {Encounter : Type} {own : Payload → Bool} {session next : Session Encounter}
  {row : ReplayEvent}

theorem append (tape : Tape own session) (ordinary : Ordinary own row)
    (account : next.player.accountId = session.player.accountId)
    (actor : next.player.actorId = session.player.actorId)
    (grown : next.journal = session.journal ++ [row]) : Tape own next := by
  refine ⟨?_, ?_⟩
  · rw [account, actor, grown]
    exact tape.solo.append ordinary.notJoined ordinary.notForeign
  · rw [grown]
    exact Campaign.inCounterSignal_append tape.elsewhere ordinary.notBoundary

theorem of_opened (opened : Opened session) : Tape own session := by
  refine ⟨opened.solo own, ?_⟩
  simp only [Campaign.inCounterSignal, List.any_eq_false, Bool.and_eq_true, not_and]
  intro event member _
  have early := opened.prelude event member
  unfold isPrelude at early
  unfold Campaign.isBoundary
  cases kind : event.kind <;> simp_all

end Tape

/-! ## Mirrored enemies -/

/-- A live enemy and the validator's copy differ in their archetype only. -/
structure Mirrors (live copy : Actor) : Prop where
  same : live = { copy with archetype := live.archetype }
  alive : 0 < live.health
  healthy : live.health ≤ live.maxHealth

namespace Mirrors

variable {live copy : Actor}

theorem id (mirrors : Mirrors live copy) : live.id = copy.id := by rw [mirrors.same]

theorem position (mirrors : Mirrors live copy) : live.position = copy.position := by
  rw [mirrors.same]

theorem health (mirrors : Mirrors live copy) : live.health = copy.health := by rw [mirrors.same]

theorem maxHealth (mirrors : Mirrors live copy) : live.maxHealth = copy.maxHealth := by
  rw [mirrors.same]

theorem move (mirrors : Mirrors live copy) (position : Position) :
    Mirrors { live with position } { copy with position } :=
  { same := by rw [mirrors.same]
    alive := mirrors.alive
    healthy := mirrors.healthy }

theorem setHealth (mirrors : Mirrors live copy) {health : Nat} (alive : 0 < health)
    (healthy : health ≤ copy.maxHealth) :
    Mirrors { live with health } { copy with health } :=
  { same := by rw [mirrors.same]
    alive := alive
    healthy := mirrors.maxHealth ▸ healthy }

end Mirrors

/-- What a registry answers for an enemy against the validator's copy.  While
the encounter is fought the copy is dead exactly when the enemy is gone. -/
structure Shadow (fought : Bool) (found : Option Actor) (copy : Actor) : Prop where
  present : ∀ live, found = some live → Mirrors live copy
  absent : fought = true → found = none → copy.health = 0

namespace Shadow

variable {fought : Bool} {found : Option Actor} {copy live : Actor}

theorem gone (shadow : Shadow true found copy) : copy.health = 0 ↔ found = none := by
  refine ⟨?_, shadow.absent rfl⟩
  intro dead
  cases answer : found with
  | none => rfl
  | some live =>
      have mirrors := shadow.present live answer
      have alive := mirrors.alive
      rw [mirrors.health, dead] at alive
      exact absurd alive (lt_irrefl 0)

theorem of_mirrors (mirrors : Mirrors live copy) : Shadow fought (some live) copy :=
  { present := fun other same => by cases same; exact mirrors
    absent := fun _ missing => by cases missing }

theorem of_dead (dead : copy.health = 0) : Shadow fought none copy :=
  { present := fun other missing => by cases missing
    absent := fun _ _ => dead }

/-- A fresh enemy and the validator's fresh copy. -/
theorem of_spawned {id health : Nat} {archetype copyType : String} {position : Position}
    (alive : 0 < health) :
    Shadow fought (some { id, kind := .enemy, archetype, position, health, maxHealth := health })
      { id, kind := .enemy, archetype := copyType, position, health, maxHealth := health } :=
  .of_mirrors { same := rfl, alive := alive, healthy := le_refl _ }

/-- After the fight nothing is said of an enemy that is gone. -/
theorem ended (shadow : Shadow fought found copy) : Shadow false found copy :=
  { present := shadow.present
    absent := fun impossible => by cases impossible }

theorem of_gone : Shadow false none copy :=
  { present := fun other missing => by cases missing
    absent := fun impossible => by cases impossible }

/-- A move of the live enemy that the copy follows. -/
theorem move (shadow : Shadow fought found copy) (position : Position) :
    Shadow fought (found.map (fun live => { live with position })) { copy with position } :=
  { present := by
      intro moved same
      obtain ⟨live, answer, rfl⟩ := Option.map_eq_some_iff.mp same
      exact (shadow.present live answer).move position
    absent := fun fighting missing => shadow.absent fighting (Option.map_eq_none_iff.mp missing) }

end Shadow

/-- The registry after a shot: a killed target leaves it. -/
def afterShot (actors : ActorRegistry) (targetId damage : Nat) (killed : Bool) : ActorRegistry :=
  if killed then (actors.applyDamage targetId damage).destroy targetId
  else actors.applyDamage targetId damage

variable {actors : ActorRegistry} {targetId : Nat}

theorem get_afterShot_other {damage actorId : Nat} {killed : Bool} (other : actorId ≠ targetId) :
    (afterShot actors targetId damage killed).get actorId = actors.get actorId := by
  unfold afterShot
  cases killed <;> simp [other]

/-- The struck enemy's copy loses the same health, and a death removes it. -/
theorem Shadow.struck {damage : Nat} {copy target : Actor}
    (shadow : Shadow true (actors.get targetId) copy) (found : actors.get targetId = some target) :
    Shadow true
      ((afterShot actors targetId damage (decide (target.health - damage = 0))).get targetId)
      { copy with health := target.health - damage } := by
  have mirrors := shadow.present target found
  unfold afterShot
  by_cases fatal : target.health - damage = 0
  · simp only [fatal, decide_true, if_true, ActorRegistry.get_destroy]
    exact .of_dead rfl
  · simp only [decide_eq_false fatal, Bool.false_eq_true, if_false, ActorRegistry.get_applyDamage,
      if_true, found, Option.map_some]
    refine .of_mirrors (mirrors.setHealth (Nat.pos_of_ne_zero fatal) ?_)
    exact le_trans (Nat.sub_le _ _) (mirrors.maxHealth ▸ mirrors.healthy)

/-- A copy after a shot at the given target. -/
def struckCopy (copy : Actor) (targetId remaining : Nat) : Actor :=
  if copy.id = targetId then { copy with health := remaining } else copy

theorem struckCopy_kept (copy : Actor) (targetId remaining : Nat) :
    (struckCopy copy targetId remaining).id = copy.id ∧
      (struckCopy copy targetId remaining).maxHealth = copy.maxHealth := by
  unfold struckCopy
  split <;> exact ⟨rfl, rfl⟩

theorem struckCopy_position (copy : Actor) (targetId remaining : Nat) :
    (struckCopy copy targetId remaining).position = copy.position := by
  unfold struckCopy
  split <;> rfl

theorem struckCopy_shadow (damage : Nat) {copy target : Actor}
    (shadow : Shadow true (actors.get copy.id) copy) (found : actors.get targetId = some target) :
    Shadow true
      ((afterShot actors targetId damage (decide (target.health - damage = 0))).get copy.id)
      (struckCopy copy targetId (target.health - damage)) := by
  unfold struckCopy
  by_cases same : copy.id = targetId
  · subst same
    rw [if_pos rfl]
    exact shadow.struck found
  · rw [if_neg same, get_afterShot_other same]
    exact shadow

/-- A target that survives leaves one of the two copies alive. -/
theorem struckCopy_standing {first second : Actor} {remaining : Nat}
    (aimed : targetId = first.id ∨ targetId = second.id) (left : remaining ≠ 0) :
    (struckCopy first targetId remaining).health ≠ 0 ∨
      (struckCopy second targetId remaining).health ≠ 0 := by
  rcases aimed with same | same
  · exact Or.inl (by rw [struckCopy, if_pos same.symm]; exact left)
  · exact Or.inr (by rw [struckCopy, if_pos same.symm]; exact left)

end Agreement
end Revenant
