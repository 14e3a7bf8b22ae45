import Revenant.Activities.Script
import Revenant.Actors
import Revenant.Library.Holds

namespace Revenant
namespace Activities
namespace Coolant

open Library

/-!
# The coolant run

Two stations in order, each held without a break, before a deadline.  The
reward belongs to the enclosing mission, so an attempt only moves from phase to
phase.  What an attempt has been through is told from its observations.

`observe` is one turn of the caller, with the row of a phase that the database
may refuse: a refused row leaves the attempt as it was.  `Through` reads the
phases off the observations, and no observation is assumed to be on time.
-/

def intake : Position := ⟨-1, 0, -5⟩
def transfer : Position := ⟨4, 0, -5⟩
def delivery : Position := ⟨4, 0, -1⟩
def dwellMs : Nat := 1200
def deadlineMs : Nat := 8000

inductive Phase where
  | transfer
  | delivery
  | completed
  | expired
  deriving DecidableEq, Repr

structure CoolantRun where
  script : ScriptedActivity
  phase : Phase
  dwellStarted : Option Nat
  deriving DecidableEq, Repr

/-- `coolant_run.lua`. -/
def source : ScriptedActivity :=
  { id := "coolant_run"
    objectives := [.reachArea "coolant_intake" .active, .reachArea "coolant_transfer" .pending,
      .reachArea "coolant_delivery" .pending]
    triggers := [.station "coolant_intake" (some "coolant_transfer"),
      .station "coolant_transfer" (some "coolant_delivery"), .station "coolant_delivery" none] }

/-- What a phase waits for. -/
def Phase.awaited : Phase → Option (Position × String)
  | transfer => some (Coolant.transfer, "coolant_transfer")
  | delivery => some (Coolant.delivery, "coolant_delivery")
  | completed | expired => none

namespace CoolantRun

def start : CoolantRun × List ActivityEvent :=
  let script := (source.applyTrigger (.areaReached "coolant_intake")).1
  ({ script, phase := .transfer, dwellStarted := none }, script.objectives.map .objectiveUpdated)

def failure (objectiveId : String) : ActivityEvent :=
  .objectiveUpdated
    { id := objectiveId, kind := .reachArea, state := .failed, progress := 0, target := 1 }

def update (run : CoolantRun) (position : Position) (elapsedMs : Nat) :
    CoolantRun × List ActivityEvent :=
  match run.phase.awaited with
  | none => (run, [])
  | some (station, objectiveId) =>
      -- the deadline wins even when the last dwell would complete now
      if elapsedMs ≥ deadlineMs then ({ run with phase := .expired }, [failure objectiveId])
      else if position ≠ station then ({ run with dwellStarted := none }, [])
      else
        let started := run.dwellStarted.getD elapsedMs
        if elapsedMs - started < dwellMs then ({ run with dwellStarted := some started }, [])
        else
          let (script, events) := run.script.applyTrigger (.areaReached objectiveId)
          ({ script, phase := if run.phase = .transfer then .delivery else .completed
             dwellStarted := none }, events.filter ActivityEvent.isObjective)

end CoolantRun

/-! ## Attempts -/

/-- What a run is shown: where the player is, the time since the start, and
whether the row of a phase it would enter is stored. -/
structure Observation where
  position : Position
  elapsedMs : Nat
  stored : Bool
  deriving DecidableEq, Repr

/-- An attempt with the phases it has entered. -/
structure Attempt where
  run : CoolantRun
  entered : List Phase
  deriving DecidableEq, Repr

namespace Attempt

def begin : Attempt := { run := CoolantRun.start.1, entered := [] }

/-- A refused row leaves the attempt as it was. -/
def observe (attempt : Attempt) (observation : Observation) : Attempt :=
  let run := (attempt.run.update observation.position observation.elapsedMs).1
  if run.phase = attempt.run.phase then { attempt with run }
  else if observation.stored then { run, entered := attempt.entered ++ [run.phase] }
  else attempt

def after (observations : List Observation) : Attempt := observations.foldl observe begin

theorem after_snoc (observations : List Observation) (last : Observation) :
    after (observations ++ [last]) = (after observations).observe last := by
  simp only [after, List.foldl_append, List.foldl_cons, List.foldl_nil]

end Attempt

/-- The observation is at a station. -/
def At (station : Position) (observation : Observation) : Prop := observation.position = station

/-- The station was held long enough, up to and with the last observation. -/
abbrev HeldFor (station : Position) (observations : List Observation) (last : Observation) : Prop :=
  Lasted (At station) Observation.elapsedMs dwellMs observations last

/-- Both stations were held in their order, the second before the deadline. -/
def Delivered (observations : List Observation) : Prop :=
  ∃ front first middle last rest, observations = front ++ first :: (middle ++ last :: rest) ∧
    HeldFor transfer front first ∧ HeldFor delivery middle last ∧ last.elapsedMs < deadlineMs

/-- Some observation came at the deadline or after it. -/
def Overdue (observations : List Observation) : Prop :=
  ∃ late ∈ observations, deadlineMs ≤ late.elapsedMs

/-- The dwell timer of the station awaited since `held` began.  Past the
deadline nobody reads it. -/
def Timed (station : Position) (observations held : List Observation) (started : Option Nat) :
    Prop :=
  Overdue observations ∨ Held (At station) Observation.elapsedMs held started

/-- What an attempt has been through, with the phases it has entered. -/
inductive Through (observations : List Observation) (run : CoolantRun) : List Phase → Prop
  | transferring (phase : run.phase = .transfer)
      (timer : Timed transfer observations observations run.dwellStarted) :
      Through observations run []
  | delivering (phase : run.phase = .delivery) {front : List Observation} {first : Observation}
      {middle : List Observation} (split : observations = front ++ first :: middle)
      (transferred : HeldFor transfer front first)
      (timer : Timed delivery observations middle run.dwellStarted) :
      Through observations run [.delivery]
  | completed (phase : run.phase = .completed) (delivered : Delivered observations) :
      Through observations run [.delivery, .completed]
  | expired (phase : run.phase = .expired) (overdue : Overdue observations)
      (entered : List Phase) (running : entered = [] ∨ entered = [.delivery]) :
      Through observations run (entered ++ [.expired])

/-! ## What an observation does -/

/-- The cases of one observation, with the run it leads to. -/
inductive Observed (run : CoolantRun) (position : Position) (elapsedMs : Nat) : CoolantRun → Prop
  | idle (isOver : run.phase.awaited = none) : Observed run position elapsedMs run
  | late (running : run.phase.awaited.isSome) (late : deadlineMs ≤ elapsedMs) :
      Observed run position elapsedMs { run with phase := .expired }
  | away {station : Position} {objectiveId : String}
      (awaited : run.phase.awaited = some (station, objectiveId)) (early : elapsedMs < deadlineMs)
      (away : position ≠ station) : Observed run position elapsedMs { run with dwellStarted := none }
  | waiting {objectiveId : String} (awaited : run.phase.awaited = some (position, objectiveId))
      (early : elapsedMs < deadlineMs)
      (short : elapsedMs - run.dwellStarted.getD elapsedMs < dwellMs) :
      Observed run position elapsedMs
        { run with dwellStarted := some (run.dwellStarted.getD elapsedMs) }
  | transferred (phase : run.phase = .transfer) (here : position = transfer)
      (early : elapsedMs < deadlineMs)
      (long : dwellMs ≤ elapsedMs - run.dwellStarted.getD elapsedMs) :
      Observed run position elapsedMs
        { script := (run.script.applyTrigger (.areaReached "coolant_transfer")).1
          phase := .delivery, dwellStarted := none }
  | delivered (phase : run.phase = .delivery) (here : position = delivery)
      (early : elapsedMs < deadlineMs)
      (long : dwellMs ≤ elapsedMs - run.dwellStarted.getD elapsedMs) :
      Observed run position elapsedMs
        { script := (run.script.applyTrigger (.areaReached "coolant_delivery")).1
          phase := .completed, dwellStarted := none }

theorem CoolantRun.update_observed (run : CoolantRun) (position : Position) (elapsedMs : Nat) :
    Observed run position elapsedMs (run.update position elapsedMs).1 := by
  cases awaited : run.phase.awaited with
  | none =>
      simp only [update, awaited]
      exact .idle awaited
  | some target =>
      obtain ⟨station, objectiveId⟩ := target
      simp only [update, awaited]
      split_ifs with late away short transferring
      · exact .late (by rw [awaited, Option.isSome_some]) late
      · exact .away awaited (Nat.lt_of_not_le late) away
      · cases not_not.mp away
        exact .waiting awaited (Nat.lt_of_not_le late) short
      · rw [transferring] at awaited
        cases awaited
        exact .transferred transferring (not_not.mp away) (Nat.lt_of_not_le late)
          (Nat.le_of_not_lt short)
      · cases phase : run.phase with
        | transfer => exact absurd phase transferring
        | delivery =>
            rw [phase] at awaited
            cases awaited
            exact .delivered phase (not_not.mp away) (Nat.lt_of_not_le late)
              (Nat.le_of_not_lt short)
        | completed | expired => rw [phase] at awaited; cases awaited

section Observe

variable {observations held : List Observation} {attempt : Attempt} {last : Observation}

theorem Delivered.snoc (delivered : Delivered observations) (last : Observation) :
    Delivered (observations ++ [last]) := by
  obtain ⟨front, first, middle, final, rest, rfl, transferred, held, early⟩ := delivered
  exact ⟨front, first, middle, final, rest ++ [last], by simp, transferred, held, early⟩

theorem Overdue.snoc (overdue : Overdue observations) (last : Observation) :
    Overdue (observations ++ [last]) := by
  obtain ⟨late, member, passed⟩ := overdue
  exact ⟨late, List.mem_append_left _ member, passed⟩

theorem overdue_last (late : deadlineMs ≤ last.elapsedMs) : Overdue (observations ++ [last]) :=
  ⟨last, List.mem_append_right _ List.mem_cons_self, late⟩

theorem not_overdue (ordered : ∀ observation ∈ observations, observation.elapsedMs ≤ last.elapsedMs)
    (early : last.elapsedMs < deadlineMs) : ¬ Overdue observations := by
  rintro ⟨late, member, passed⟩
  have before := ordered late member
  omega

/-- A timer that shows the dwell was set before. -/
theorem set_of_long {started : Option Nat} {elapsedMs : Nat}
    (long : dwellMs ≤ elapsedMs - started.getD elapsedMs) :
    started = some (started.getD elapsedMs) := by
  cases started with
  | none => simp [dwellMs] at long
  | some began => rfl

section Timer

variable {station : Position} {started : Option Nat}

/-- A hold did not begin after an observation that follows it. -/
theorem held_past (timer : Held (At station) Observation.elapsedMs held started)
    (ordered : ∀ observation ∈ held, observation.elapsedMs ≤ last.elapsedMs) :
    ∀ began, started = some began → began ≤ last.elapsedMs := by
  intro began set
  obtain ⟨first, ⟨front, rest, rfl, -⟩, rfl⟩ := timer.began began set
  exact ordered first (List.mem_append_right _ List.mem_cons_self)

theorem Timed.away (away : last.position ≠ station) :
    Timed station (observations ++ [last]) (held ++ [last]) none :=
  Or.inr (held_away away)

theorem Timed.stay (timer : Timed station observations held started)
    (ordered : ∀ observation ∈ held, observation.elapsedMs ≤ last.elapsedMs)
    (here : last.position = station) :
    Timed station (observations ++ [last]) (held ++ [last])
      (some (started.getD last.elapsedMs)) := by
  rcases timer with overdue | timer
  · exact Or.inl (overdue.snoc last)
  · exact Or.inr (timer.snoc (held_past timer ordered) here)

/-- Before the deadline a timer that shows the dwell tells a hold. -/
theorem Timed.heldFor (timer : Timed station observations held started)
    (ordered : ∀ observation ∈ observations, observation.elapsedMs ≤ last.elapsedMs)
    (inside : ∀ observation ∈ held, observation ∈ observations)
    (early : last.elapsedMs < deadlineMs) (here : last.position = station)
    (long : dwellMs ≤ last.elapsedMs - started.getD last.elapsedMs) :
    HeldFor station held last := by
  rcases timer with overdue | timer
  · exact absurd overdue (not_overdue ordered early)
  · have past := held_past timer (fun observation member => ordered observation (inside _ member))
    exact (timer.lasted_iff past here).mpr long

end Timer

/-- An observation while the first station is awaited. -/
theorem observe_transferring (phase : attempt.run.phase = .transfer) (fresh : attempt.entered = [])
    (timer : Timed transfer observations observations attempt.run.dwellStarted)
    (ordered : ∀ observation ∈ observations, observation.elapsedMs ≤ last.elapsedMs) :
    Through (observations ++ [last]) (attempt.observe last).run (attempt.observe last).entered := by
  have observed := attempt.run.update_observed last.position last.elapsedMs
  unfold Attempt.observe
  generalize (attempt.run.update last.position last.elapsedMs).1 = next at observed ⊢
  cases observed with
  | idle isOver => rw [phase] at isOver; cases isOver
  | late running late =>
      rw [if_neg (by rw [phase]; nofun), fresh]
      split
      · exact .expired rfl (overdue_last late) [] (Or.inl rfl)
      · rw [fresh]
        exact .transferring phase (Or.inl (overdue_last late))
  | away awaited early away =>
      rw [phase] at awaited
      cases awaited
      rw [if_pos rfl, fresh]
      exact .transferring phase (Timed.away away)
  | waiting awaited early short =>
      rw [phase] at awaited
      have here : last.position = transfer := (Prod.mk.inj (Option.some.inj awaited)).1.symm
      rw [if_pos rfl, fresh]
      exact .transferring phase (timer.stay ordered here)
  | transferred _ here early long =>
      rw [if_neg (by rw [phase]; nofun), fresh]
      split
      · exact .delivering rfl rfl (timer.heldFor ordered (fun _ member => member) early here long)
          (Or.inr held_nil)
      · rw [fresh]
        refine .transferring phase ?_
        rw [set_of_long long]
        exact timer.stay ordered here
  | delivered delivering => rw [phase] at delivering; cases delivering

/-- An observation while the second station is awaited. -/
theorem observe_delivering {front middle : List Observation} {first : Observation}
    (phase : attempt.run.phase = .delivery) (entered : attempt.entered = [.delivery])
    (split : observations = front ++ first :: middle) (transferred : HeldFor transfer front first)
    (timer : Timed delivery observations middle attempt.run.dwellStarted)
    (ordered : ∀ observation ∈ observations, observation.elapsedMs ≤ last.elapsedMs) :
    Through (observations ++ [last]) (attempt.observe last).run (attempt.observe last).entered := by
  have inside : ∀ observation ∈ middle, observation ∈ observations := fun observation member =>
    split ▸ List.mem_append_right _ (List.mem_cons_of_mem _ member)
  have grown : observations ++ [last] = front ++ first :: (middle ++ [last]) := by
    rw [split, List.append_assoc, List.cons_append]
  have observed := attempt.run.update_observed last.position last.elapsedMs
  unfold Attempt.observe
  generalize (attempt.run.update last.position last.elapsedMs).1 = next at observed ⊢
  cases observed with
  | idle isOver => rw [phase] at isOver; cases isOver
  | late running late =>
      rw [if_neg (by rw [phase]; nofun), entered]
      split
      · exact .expired rfl (overdue_last late) [.delivery] (Or.inr rfl)
      · rw [entered]
        exact .delivering phase grown transferred (Or.inl (overdue_last late))
  | away awaited early away =>
      rw [phase] at awaited
      cases awaited
      rw [if_pos rfl, entered]
      exact .delivering phase grown transferred (Timed.away away)
  | waiting awaited early short =>
      rw [phase] at awaited
      have here : last.position = delivery := (Prod.mk.inj (Option.some.inj awaited)).1.symm
      rw [if_pos rfl, entered]
      exact .delivering phase grown transferred
        (timer.stay (fun observation member => ordered observation (inside _ member)) here)
  | transferred transferring => rw [phase] at transferring; cases transferring
  | delivered _ here early long =>
      rw [if_neg (by rw [phase]; nofun), entered]
      split
      · exact .completed rfl ⟨front, first, middle, last, [], grown, transferred,
          timer.heldFor ordered inside early here long, early⟩
      · rw [entered]
        refine .delivering phase grown transferred ?_
        rw [set_of_long long]
        exact timer.stay (fun observation member => ordered observation (inside _ member)) here

/-- Once a run is over an observation does nothing. -/
theorem CoolantRun.update_over {run : CoolantRun} (isOver : run.phase.awaited = none)
    (position : Position) (elapsedMs : Nat) : run.update position elapsedMs = (run, []) := by
  simp only [update, isOver]

theorem Attempt.observe_over (isOver : attempt.run.phase.awaited = none) (last : Observation) :
    attempt.observe last = attempt := by
  simp only [observe, CoolantRun.update_over isOver, if_true]

/-- What an attempt has been through, one observation later. -/
theorem Through.observe (through : Through observations attempt.run attempt.entered)
    (ordered : ∀ observation ∈ observations, observation.elapsedMs ≤ last.elapsedMs) :
    Through (observations ++ [last]) (attempt.observe last).run (attempt.observe last).entered := by
  generalize phases : attempt.entered = entered at through
  cases through with
  | transferring phase timer => exact observe_transferring phase phases timer ordered
  | delivering phase split transferred timer =>
      exact observe_delivering phase phases split transferred timer ordered
  | completed phase delivered =>
      rw [attempt.observe_over (by rw [phase]; rfl), phases]
      exact .completed phase (delivered.snoc last)
  | expired phase overdue earlier running =>
      rw [attempt.observe_over (by rw [phase]; rfl), phases]
      exact .expired phase (overdue.snoc last) earlier running

/-- Every attempt whose clock does not go back. -/
theorem through_after (ordered : (observations.map Observation.elapsedMs).Pairwise (· ≤ ·)) :
    Through observations (Attempt.after observations).run (Attempt.after observations).entered := by
  induction observations using List.reverseRecOn with
  | nil => exact .transferring rfl (Or.inr held_nil)
  | append_singleton front last inductionHypothesis =>
      rw [List.map_append, List.pairwise_append] at ordered
      rw [Attempt.after_snoc]
      refine (inductionHypothesis ordered.1).observe ?_
      intro observation member
      exact ordered.2.2 _ (List.mem_map_of_mem member) _ (by simp)

/-- A stored observation past the deadline ends an attempt that is under way. -/
theorem Attempt.observe_late (running : attempt.run.phase.awaited.isSome)
    (late : deadlineMs ≤ last.elapsedMs) (stored : last.stored = true) :
    (attempt.observe last).run.phase = .expired := by
  have changed : Phase.expired ≠ attempt.run.phase := by
    rintro same
    rw [← same] at running
    cases running
  obtain ⟨⟨station, objectiveId⟩, awaited⟩ := Option.isSome_iff_exists.mp running
  simp only [observe, CoolantRun.update, awaited, ge_iff_le, late, if_true, if_neg changed, stored]

end Observe

end Coolant
end Activities
end Revenant
