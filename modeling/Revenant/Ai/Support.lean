import Revenant.Actors
import Revenant.Library.Words

namespace Revenant
namespace Ai

open Library

/-!
# The Relay Mender

Bounded allied repair: a ready mender restores the most wounded ally in range.
-/

namespace Support

def entrance : Position := ⟨2, 0, 6⟩

def spawn : Position := ⟨7, 0, 6⟩

def health : Nat := 120

def repairAmount : Nat := 8

def repairIntervalMs : Nat := 1600

def linkRange : Int := 6

structure RepairAction where
  targetId : Nat
  amount : Nat
  healthBefore : Nat
  healthAfter : Nat
  deriving DecidableEq, Repr

abbrev eligible (source ally : Actor) : Prop :=
  source.id ≠ ally.id ∧ ally.kind = .enemy ∧ ally.health ≠ 0 ∧ ally.health < ally.maxHealth ∧
    source.position.y = ally.position.y ∧
    |source.position.x - ally.position.x| ≤ linkRange ∧
    |source.position.z - ally.position.z| ≤ linkRange ∧
    |source.position.x - ally.position.x| * |source.position.x - ally.position.x| +
      |source.position.z - ally.position.z| * |source.position.z - ally.position.z| ≤
        linkRange * linkRange

/-- Lower health fraction first, then the lower identifier. -/
abbrev moreUrgent (left right : Actor) : Prop :=
  left.health * right.maxHealth < right.health * left.maxHealth ∨
    (left.health * right.maxHealth = right.health * left.maxHealth ∧ left.id < right.id)

/-- `min_by`: the earlier element stays on a tie. -/
def selectTarget : List Actor → Option Actor
  | [] => none
  | first :: rest =>
      some (rest.foldl (fun best ally => if moreUrgent ally best then ally else best) first)

structure RelayMender where
  readyAtMs : Nat
  deriving DecidableEq, Repr

namespace RelayMender

def default : RelayMender := { readyAtMs := 900 }

/-- What a repair does to its target. -/
def repair (target : Actor) : RepairAction :=
  let amount := min repairAmount (target.maxHealth - target.health)
  { targetId := target.id, amount, healthBefore := target.health
    healthAfter := target.health + amount }

def tick (mender : RelayMender) (nowMs : Nat) (source : Actor) (allies : List Actor) :
    Option (RepairAction × RelayMender) :=
  if nowMs < mender.readyAtMs ∨ source.kind ≠ .enemy ∨ source.health = 0 then none
  else
    match selectTarget (allies.filter (fun ally => eligible source ally)) with
    | none => none
    | some target =>
        some (repair target, { readyAtMs := saturatingAdd nowMs repairIntervalMs })

def confirmAt (mender : RelayMender) (nowMs : Nat) : RelayMender :=
  { readyAtMs := max mender.readyAtMs (saturatingAdd nowMs repairIntervalMs) }

/-- With a single ally in sight a tick acts exactly when the mender is ready
and that ally is eligible. -/
theorem tick_single (mender : RelayMender) (nowMs : Nat) (source ally : Actor) :
    mender.tick nowMs source [ally] =
      if mender.readyAtMs ≤ nowMs ∧ source.kind = .enemy ∧ source.health ≠ 0 ∧
          eligible source ally then
        some (repair ally, { readyAtMs := saturatingAdd nowMs repairIntervalMs })
      else none := by
  unfold tick
  by_cases inLink : eligible source ally
  · simp only [List.filter_cons, List.filter_nil, decide_eq_true inLink, if_true, selectTarget,
      List.foldl_nil]
    by_cases ready : nowMs < mender.readyAtMs ∨ source.kind ≠ .enemy ∨ source.health = 0
    · rw [if_pos ready, if_neg]
      rintro ⟨reached, enemy, alive, -⟩
      rcases ready with early | stranger | dead
      · omega
      · exact stranger enemy
      · exact alive dead
    · rw [if_neg ready, if_pos]
      simp only [not_or, not_lt, not_not] at ready
      exact ⟨ready.1, ready.2.1, ready.2.2, inLink⟩
  · simp only [List.filter_cons, List.filter_nil, decide_eq_false inLink, Bool.false_eq_true,
      if_false, selectTarget, ite_self]
    rw [if_neg]
    rintro ⟨-, -, -, reached⟩
    exact inLink reached

/-- What a repair of a single ally implies. -/
theorem tick_single_some {mender next : RelayMender} {nowMs : Nat} {source ally : Actor}
    {action : RepairAction} (acted : mender.tick nowMs source [ally] = some (action, next)) :
    action = repair ally ∧ 0 < ally.health ∧ ally.health < ally.maxHealth := by
  rw [tick_single] at acted
  split at acted
  · next able =>
    obtain ⟨-, -, -, -, -, standing, wounded, -⟩ := able
    cases acted
    exact ⟨rfl, Nat.pos_of_ne_zero standing, wounded⟩
  · cases acted

/-- A repair does not look at the archetypes. -/
theorem tick_archetype (mender : RelayMender) (nowMs : Nat) (source ally : Actor)
    (sourceType allyType : String) :
    mender.tick nowMs { source with archetype := sourceType } [{ ally with archetype := allyType }] =
      mender.tick nowMs source [ally] := by
  rw [tick_single, tick_single]
  rfl

/-- A mender that is ready earlier acts the same. -/
theorem tick_of_le {mender earlier next : RelayMender} {nowMs : Nat} {source ally : Actor}
    {action : RepairAction} (due : earlier.readyAtMs ≤ mender.readyAtMs)
    (acted : mender.tick nowMs source [ally] = some (action, next)) :
    earlier.tick nowMs source [ally] = some (action, next) := by
  rw [tick_single] at acted ⊢
  split at acted
  · next able =>
    rw [if_pos ⟨le_trans due able.1, able.2⟩]
    exact acted
  · cases acted

/-- A later confirmation never makes a mender ready earlier. -/
theorem le_confirmAt (mender : RelayMender) (nowMs : Nat) :
    mender.readyAtMs ≤ (mender.confirmAt nowMs).readyAtMs :=
  Nat.le_max_left _ _

end RelayMender
end Support
end Ai
end Revenant
