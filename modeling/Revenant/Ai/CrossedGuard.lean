import Revenant.Ai.Elite

namespace Revenant
namespace Ai

open Library

/-!
# The crossed guard

Two attackers share one danger window.  `Watch` says what a player may rely on:
one warning at a time, closed by a strike no earlier than its full length, a
breather before the next one, and attackers that take turns while both live.
Every run of the brain follows the watch, and the timers of the shared cadence
and of the two attackers stay the same timer.

The watch knows only the events a caller sees, with their times.  It is a
specification: the brain is not built from it.  A caller keeps one durable
proposal at a time and confirms it before it asks again, after a write of any
length.
-/

namespace Elite

inductive Attacker where
  | bulwark
  | lancer
  deriving DecidableEq, Repr

def Attacker.warningMs : Attacker → Nat
  | bulwark => Bulwark.windupMs
  | lancer => Lancer.windupMs

/-- The attacker whose warning an action opens. -/
def EliteAction.announces : EliteAction → Option Attacker
  | .defense (.brace _) => some .bulwark
  | .charge (.windup _ _) => some .lancer
  | _ => none

/-- The attacker whose warning an action closes. -/
def EliteAction.strikes : EliteAction → Option Attacker
  | .defense (.slam _ _) => some .bulwark
  | .charge (.resolved _ _ _) => some .lancer
  | _ => none

/-- What the caller of a brain has seen happen. -/
inductive Event where
  | acted (action : EliteAction) (nowMs : Nat)
  | confirmed (nowMs : Nat)
  | retired (actorId confirmedMs : Nat)
  deriving DecidableEq

/-- An open warning or the quiet after one, since its later tick or confirmation. -/
inductive Danger where
  | warned (attacker : Attacker) (sinceMs : Nat)
  | quiet (sinceMs : Nat)
  deriving DecidableEq

namespace Danger

def confirmed (nowMs : Nat) : Danger → Danger
  | warned attacker sinceMs => warned attacker (max sinceMs nowMs)
  | quiet sinceMs => quiet (max sinceMs nowMs)

/-- The death of an attacker cancels its warning. -/
def cancelled (attacker : Attacker) (nowMs : Nat) : Danger → Danger
  | warned warner sinceMs => if warner = attacker then quiet nowMs else warned warner sinceMs
  | quiet sinceMs => quiet sinceMs

end Danger

structure Watch where
  bulwarkId : Nat
  lancerId : Nat
  bulwarkAlive : Bool
  lancerAlive : Bool
  danger : Danger
  last : Attacker

namespace Watch

/-- The Bulwark's first warning is open at spawn. -/
def spawned (bulwarkId lancerId : Nat) : Watch :=
  { bulwarkId, lancerId, bulwarkAlive := true, lancerAlive := true, danger := .warned .bulwark 0
    last := .bulwark }

def alive (watch : Watch) : Attacker → Bool
  | .bulwark => watch.bulwarkAlive
  | .lancer => watch.lancerAlive

/-- What the watch lets happen. -/
inductive Admits (watch : Watch) : Event → Prop
  | announced {action : EliteAction} {attacker : Attacker} {sinceMs nowMs : Nat}
      (announces : action.announces = some attacker) (alive : watch.alive attacker = true)
      (calm : watch.danger = .quiet sinceMs) (breather : sinceMs + breatherMs ≤ nowMs)
      (turn : watch.bulwarkAlive = true → watch.lancerAlive = true → watch.last ≠ attacker) :
      Admits watch (.acted action nowMs)
  | struck {action : EliteAction} {attacker : Attacker} {sinceMs nowMs : Nat}
      (strikes : action.strikes = some attacker) (alive : watch.alive attacker = true)
      (warned : watch.danger = .warned attacker sinceMs)
      (elapsed : sinceMs + attacker.warningMs ≤ nowMs) : Admits watch (.acted action nowMs)
  | confirmed (nowMs : Nat) : Admits watch (.confirmed nowMs)
  | retired (actorId confirmedMs : Nat) : Admits watch (.retired actorId confirmedMs)

def retired (watch : Watch) (actorId confirmedMs : Nat) : Watch :=
  if actorId = watch.bulwarkId then
    { watch with bulwarkAlive := false, danger := watch.danger.cancelled .bulwark confirmedMs }
  else if actorId = watch.lancerId then
    { watch with lancerAlive := false, danger := watch.danger.cancelled .lancer confirmedMs }
  else watch

def after (watch : Watch) : Event → Watch
  | .acted action nowMs =>
      match action.announces, action.strikes with
      | some attacker, _ => { watch with danger := .warned attacker nowMs, last := attacker }
      | none, some _ => { watch with danger := .quiet nowMs }
      | none, none => watch
  | .confirmed nowMs => { watch with danger := watch.danger.confirmed nowMs }
  | .retired actorId confirmedMs => watch.retired actorId confirmedMs

/-- The watch after a run, whose last event comes first. -/
def seen (bulwarkId lancerId : Nat) : List Event → Watch
  | [] => spawned bulwarkId lancerId
  | event :: earlier => (seen bulwarkId lancerId earlier).after event

end Watch

/-! ## The caller -/

/-- A caller keeps a durable proposal and confirms it before it asks again. -/
structure Caller where
  brain : EliteBrain
  pending : Option EliteAction
  clockMs : Nat

/-- A clock reading that follows the earlier ones and is far from saturation. -/
structure Caller.Reads (caller : Caller) (nowMs : Nat) : Prop where
  later : caller.clockMs ≤ nowMs
  unsaturated : nowMs + Lancer.windupMs ≤ u64Max

/-- The runs of a brain with the events they leave, the last one first. -/
inductive Run (start : EliteBrain) : List Event → Caller → Prop
  | begun : Run start [] { brain := start, pending := none, clockMs := 0 }
  | declined {events : List Event} {caller : Caller} {nowMs : Nat} {guard partner : Option Actor}
      {player : Actor} (run : Run start events caller) (reads : caller.Reads nowMs)
      (free : caller.pending = none)
      (answer : caller.brain.tick nowMs guard partner player = none) :
      Run start events { caller with clockMs := nowMs }
  | rejected {events : List Event} {caller : Caller} {nowMs : Nat} {guard partner : Option Actor}
      {player : Actor} {action : EliteAction} {next : EliteBrain} (run : Run start events caller)
      (reads : caller.Reads nowMs) (free : caller.pending = none)
      (answer : caller.brain.tick nowMs guard partner player = some (action, next)) :
      Run start events { caller with clockMs := nowMs }
  | accepted {events : List Event} {caller : Caller} {nowMs : Nat} {guard partner : Option Actor}
      {player : Actor} {action : EliteAction} {next : EliteBrain} (run : Run start events caller)
      (reads : caller.Reads nowMs) (free : caller.pending = none)
      (answer : caller.brain.tick nowMs guard partner player = some (action, next)) :
      Run start (.acted action nowMs :: events)
        { brain := next, pending := some action, clockMs := nowMs }
  | confirmed {events : List Event} {caller : Caller} {nowMs : Nat} {action : EliteAction}
      (run : Run start events caller) (reads : caller.Reads nowMs)
      (held : caller.pending = some action) :
      Run start (.confirmed nowMs :: events)
        { brain := caller.brain.confirmAt action nowMs, pending := none, clockMs := nowMs }
  | retired {events : List Event} {caller : Caller} {nowMs : Nat} (actorId : Nat)
      (run : Run start events caller) (reads : caller.Reads nowMs) :
      Run start (.retired actorId nowMs :: events)
        { caller with brain := caller.brain.retire actorId nowMs, clockMs := nowMs }

/-! ## What a tick can do -/

namespace EliteCadence

variable {cadence next : EliteCadence} {actorId nowMs : Nat}

/-- Whose turn it is when the breather is over. -/
theorem readyActor_cases (ready : cadence.readyActor nowMs = some actorId) :
    cadence.warning = none ∧ cadence.availableAtMs ≤ nowMs ∧
      ((actorId = cadence.bulwarkId ∧ cadence.bulwarkAlive = true ∧
          (cadence.lancerAlive = true → cadence.lancerNext = false)) ∨
        (actorId = cadence.lancerId ∧ cadence.lancerAlive = true ∧
          (cadence.bulwarkAlive = true → cadence.lancerNext = true))) := by
  unfold readyActor at ready
  split at ready
  · cases ready
  · next calm =>
    obtain ⟨closed, available⟩ := not_or.mp calm
    have free : cadence.warning = none := by simpa using closed
    refine ⟨free, Nat.le_of_not_lt available, ?_⟩
    split at ready
    · next lancerNext =>
      split at ready
      · next lancer =>
        cases ready
        exact Or.inr ⟨rfl, lancer, fun _ => lancerNext⟩
      · next lancer =>
        split at ready
        · next bulwark =>
          cases ready
          exact Or.inl ⟨rfl, bulwark, fun alive => absurd alive lancer⟩
        · cases ready
    · next bulwarkNext =>
      split at ready
      · next bulwark =>
        cases ready
        exact Or.inl ⟨rfl, bulwark, fun _ => by simpa using bulwarkNext⟩
      · next bulwark =>
        split at ready
        · next lancer =>
          cases ready
          exact Or.inr ⟨rfl, lancer, fun alive => absurd alive bulwark⟩
        · cases ready

theorem beginWarning_eq_some : cadence.beginWarning actorId nowMs = some next ↔
    cadence.readyActor nowMs = some actorId ∧
      next = { cadence with
        warning := some { actorId, durationMs := cadence.warningDuration actorId
                          resolvesAtMs := saturatingAdd nowMs (cadence.warningDuration actorId) } } := by
  unfold beginWarning
  split
  · next refused =>
    constructor
    · intro impossible
      cases impossible
    · rintro ⟨ready, -⟩
      exact absurd ready refused
  · next ready =>
    constructor
    · intro same
      cases same
      exact ⟨not_not.mp ready, rfl⟩
    · rintro ⟨-, rfl⟩
      rfl

theorem resolveWarning_eq_some : cadence.resolveWarning actorId nowMs = some next ↔
    ∃ warning, cadence.warning = some warning ∧ warning.actorId = actorId ∧
      warning.resolvesAtMs ≤ nowMs ∧
      next = { cadence with
        warning := none, lancerNext := decide (actorId = cadence.bulwarkId)
        availableAtMs := saturatingAdd nowMs breatherMs } := by
  unfold resolveWarning
  cases cadence.warning with
  | none =>
      constructor
      · intro impossible
        cases impossible
      · rintro ⟨warning, impossible, -⟩
        cases impossible
  | some warning =>
      dsimp only
      split
      · next refused =>
        constructor
        · intro impossible
          cases impossible
        · rintro ⟨other, same, mine, due, -⟩
          cases same
          rcases refused with foreign | early
          · exact absurd mine foreign
          · omega
      · next granted =>
        obtain ⟨mine, due⟩ := not_or.mp granted
        constructor
        · intro same
          cases same
          exact ⟨warning, rfl, not_not.mp mine, Nat.le_of_not_lt due, rfl⟩
        · rintro ⟨other, same, -, -, rfl⟩
          rfl

theorem confirmAt_warned {warning : Warning} (held : cadence.warning = some warning) :
    cadence.confirmAt nowMs = { cadence with
      warning := some { warning with
        resolvesAtMs := max warning.resolvesAtMs (saturatingAdd nowMs warning.durationMs) } } := by
  unfold confirmAt
  rw [held]

theorem confirmAt_calm (closed : cadence.warning = none) :
    cadence.confirmAt nowMs = { cadence with
      availableAtMs := max cadence.availableAtMs (saturatingAdd nowMs breatherMs) } := by
  unfold confirmAt
  rw [closed]

end EliteCadence

/-- The times of a charge in the north pad. -/
theorem northPadTick_times {charge next : Lancer.GlassLancer} {nowMs : Nat}
    {origin player : Position} {action : Lancer.ChargeAction}
    (acted : northPadTick charge nowMs origin player = some (action, next)) :
    charge.readyAtMs ≤ nowMs ∧
      ((charge.locked = none ∧ (∃ from' target, action = .windup from' target) ∧
          next.locked.isSome = true ∧ next.readyAtMs = saturatingAdd nowMs Lancer.windupMs) ∨
        (charge.locked.isSome = true ∧ (∃ from' target damage, action = .resolved from' target damage) ∧
          next.locked = none)) := by
  unfold northPadTick at acted
  split at acted
  · cases acted
  · split at acted
    · cases acted
    · next start target moved inner =>
      obtain ⟨due, -, -, ⟨free, -, rfl⟩ | ⟨_, _, -, other, -⟩⟩ :=
        Lancer.GlassLancer.tick_cases inner
      · cases acted
        exact ⟨due, Or.inl ⟨free, ⟨_, _, rfl⟩, rfl, rfl⟩⟩
      · cases other
    · next start target damage moved inner =>
      obtain ⟨due, -, -, ⟨-, other, -⟩ | ⟨_, _, locked, -, rfl⟩⟩ :=
        Lancer.GlassLancer.tick_cases inner
      · cases other
      · cases acted
        exact ⟨due, Or.inr ⟨by rw [locked]; rfl, ⟨_, _, _, rfl⟩, rfl⟩⟩

namespace EliteBrain

/-- One tick that acts on the crossed guard: the attacker whose turn it is opens
or closes its warning on its own timer and on the shared one. -/
inductive Turn (brain : EliteBrain) (nowMs : Nat) : EliteAction → EliteBrain → Prop
  | slam {facing : Facing} {damage : Nat} {defense : Bulwark.SteelBulwark}
      {cadence : EliteCadence} (due : brain.defense.readyAtMs ≤ nowMs)
      (braced : brain.defense.braced = true) (lowered : defense.braced = false)
      (resolved : brain.cadence.resolveWarning brain.bulwarkId nowMs = some cadence) :
      Turn brain nowMs (.defense (.slam facing damage)) { brain with defense, cadence }
  | brace {facing : Facing} {defense : Bulwark.SteelBulwark} {cadence : EliteCadence}
      (lowered : brain.defense.braced = false) (braced : defense.braced = true)
      (ready : defense.readyAtMs = saturatingAdd nowMs Bulwark.windupMs)
      (began : brain.cadence.beginWarning brain.bulwarkId nowMs = some cadence) :
      Turn brain nowMs (.defense (.brace facing)) { brain with defense, cadence }
  | windup {origin target : Position} {actorId : Nat} {charge : Lancer.GlassLancer}
      {cadence : EliteCadence} (other : actorId ≠ brain.bulwarkId)
      (free : brain.charge.locked = none) (locked : charge.locked.isSome = true)
      (ready : charge.readyAtMs = saturatingAdd nowMs Lancer.windupMs)
      (began : brain.cadence.beginWarning actorId nowMs = some cadence) :
      Turn brain nowMs (.charge (.windup origin target)) { brain with charge, cadence }
  | resolved {origin target : Position} {damage actorId : Nat} {charge : Lancer.GlassLancer}
      {cadence : EliteCadence} (other : actorId ≠ brain.bulwarkId)
      (due : brain.charge.readyAtMs ≤ nowMs) (locked : brain.charge.locked.isSome = true)
      (free : charge.locked = none)
      (resolved : brain.cadence.resolveWarning actorId nowMs = some cadence) :
      Turn brain nowMs (.charge (.resolved origin target damage)) { brain with charge, cadence }

variable {brain next : EliteBrain} {nowMs : Nat} {action : EliteAction}

theorem tickDefense_turn {guard : Actor} {place : Position}
    (acted : brain.tickDefense nowMs brain.bulwarkId guard place = some (action, next)) :
    Turn brain nowMs action next := by
  unfold tickDefense at acted
  split at acted
  · cases acted
  · next move defense moved =>
    dsimp only at acted
    split at acted
    · cases acted
    · next cadence shared =>
      cases acted
      obtain ⟨due, -, -, ⟨braced, rfl, rfl⟩ | ⟨lowered, rfl, rfl⟩⟩ :=
        Bulwark.SteelBulwark.tick_cases moved
      · exact Turn.slam due braced rfl shared
      · exact Turn.brace lowered rfl rfl shared

theorem tickCharge_turn {partner : Actor} {place : Position} {selected : Nat}
    (other : selected ≠ brain.bulwarkId)
    (acted : brain.tickCharge nowMs selected partner place = some (action, next)) :
    Turn brain nowMs action next := by
  unfold tickCharge at acted
  split at acted
  · cases acted
  · next move charge moved =>
    dsimp only at acted
    split at acted
    · cases acted
    · next cadence shared =>
      cases acted
      obtain ⟨due, ⟨free, ⟨from', target, rfl⟩, locked, ready⟩ |
        ⟨locked, ⟨from', target, damage, rfl⟩, free⟩⟩ := northPadTick_times moved
      · exact Turn.windup other free locked ready shared
      · exact Turn.resolved other due locked free shared

theorem tick_turn {guard partner : Option Actor} {player : Actor}
    (crossed : brain.composition = .crossedGuard)
    (acted : brain.tick nowMs guard partner player = some (action, next)) :
    Turn brain nowMs action next := by
  unfold tick at acted
  split at acted
  · cases acted
  · rw [crossed] at acted
    dsimp only at acted
    unfold tickCrossedGuard at acted
    split at acted
    · cases acted
    · next selected turn =>
      split at acted
      · next mine =>
        subst mine
        split at acted
        · cases acted
        · exact tickDefense_turn acted
      · next other =>
        split at acted
        · cases acted
        · exact tickCharge_turn other acted

theorem confirmAt_defense (crossed : brain.composition = .crossedGuard)
    {move : Bulwark.BulwarkAction} : brain.confirmAt (.defense move) nowMs =
      { brain with
        defense := brain.defense.confirmAt nowMs, cadence := brain.cadence.confirmAt nowMs } := by
  unfold confirmAt confirmCadence
  exact if_pos crossed

theorem confirmAt_charge (crossed : brain.composition = .crossedGuard)
    {move : Lancer.ChargeAction} : brain.confirmAt (.charge move) nowMs =
      { brain with
        charge := brain.charge.confirmAt nowMs, cadence := brain.cadence.confirmAt nowMs } := by
  unfold confirmAt confirmCadence
  exact if_pos crossed

end EliteBrain

end Elite
end Ai
end Revenant
