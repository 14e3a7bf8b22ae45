import Mathlib.Algebra.Order.BigOperators.Group.List
import Mathlib.Algebra.Order.Ring.Nat
import Revenant.Replay.ChallengeAuthority

namespace Revenant
namespace Replay

open Library Challenges

/-!
# The text of challenge rows

A checkpoint carries the whole save before and after its command, and its text
is bounded.  The save has at most one record for each set of published rules,
so `checkpoint_fits` adds up what all of them take: a save that grew to its full
size can still be written.
-/

/-! ## The encoding -/

def objectiveText : Objective → String
  | .lancerCleared => "lancer_cleared"
  | .menderCleared => "mender_cleared"
  | .lensRead => "lens_read"
  | .galleryRead => "gallery_read"
  | .logRead => "log_read"
  | .returned => "returned"
  | .coolantRetrieved => "coolant_retrieved"
  | .coolantTransferred => "coolant_transferred"
  | .coolantDelivered => "coolant_delivered"
  | .bulwarkCleared => "bulwark_cleared"
  | .prismCleared => "prism_cleared"
  | .sentinelCleared => "sentinel_cleared"
  | .westRelayCharged => "west_relay_charged"
  | .eastRelayCharged => "east_relay_charged"
  | .reserveReturned => "reserve_returned"
  | .gauntletSupportCleared => "gauntlet_support_cleared"
  | .gauntletBastionCleared => "gauntlet_bastion_cleared"
  | .gauntletPrismCleared => "gauntlet_prism_cleared"

def outcomeText : Outcome → String
  | .completed => "completed"
  | .abandoned => "abandoned"
  | .defeated => "defeated"
  | .interrupted => "interrupted"

def reasonText : EndReason → String
  | .abandoned => "abandoned"
  | .defeated => "defeated"
  | .interrupted => "interrupted"

namespace Json

def optional {Value : Type} (toJson : Value → Json) : Option Value → Json
  | none => .null
  | some value => toJson value

def equipment (value : Equipment) : Json :=
  .object [("loadout_revision", natural value.loadoutRevision),
    ("catalog_revision", .text value.catalogRevision), ("weapon_id", .text value.weaponId),
    ("modules", .array (value.modules.map (fun moduleId => .text moduleId.asStr)))]

/-- The preset is left out of the baseline's rules. -/
def rules (value : Rules) : Json :=
  .object ([("contract", .text value.contract.asStr),
    ("contract_revision", .text value.contractRevision),
    ("gameplay_revision", .text value.gameplayRevision), ("seed", natural value.seed)] ++
    if value.preset = .baseline then [] else [("preset", .text value.preset.asStr)])

/-- The time is left out where the rules have no time goal. -/
def challengeRun (value : ChallengeRun) : Json :=
  .object ([("run_id", natural value.runId), ("rules", rules value.rules),
    ("equipment", equipment value.equipment),
    ("objectives", natural value.objectives.toNat)] ++
    (value.elapsedMs.map (fun elapsedMs => ("elapsed_ms", natural elapsedMs))).toList)

def attemptResult (value : AttemptResult) : Json :=
  .object [("run", challengeRun value.run), ("outcome", .text (outcomeText value.outcome))]

def challengeState (value : ChallengeState) : Json :=
  .object [("revision", natural value.revision), ("active", optional challengeRun value.active),
    ("last_result", optional attemptResult value.lastResult),
    ("records", .array (value.records.map challengeRun))]

def command : Command → Json
  | .start contract value =>
      tagged "kind" "start" [("contract", .text contract.asStr), ("equipment", equipment value)]
  | .startModified contract preset value =>
      tagged "kind" "start_modified" [("contract", .text contract.asStr),
        ("preset", .text preset.asStr), ("equipment", equipment value)]
  | .retry runId value =>
      tagged "kind" "retry" [("run_id", natural runId), ("equipment", equipment value)]
  | .confirm runId objective =>
      tagged "kind" "confirm" [("run_id", natural runId),
        ("objective", .text (objectiveText objective))]
  | .confirmTimed runId objective elapsedMs =>
      tagged "kind" "confirm_timed" [("run_id", natural runId),
        ("objective", .text (objectiveText objective)), ("elapsed_ms", natural elapsedMs)]
  | .endRun runId reason =>
      tagged "kind" "end" [("run_id", natural runId), ("reason", .text (reasonText reason))]

def checkpoint (payload : ChallengeReplayPayload) : Json :=
  .object [("schema_version", natural payload.schemaVersion),
    ("policy_revision", .text payload.policyRevision),
    ("character_id", .text payload.characterId), ("operation_id", .text payload.operationId),
    ("before", challengeState payload.before), ("command", command payload.command),
    ("after", challengeState payload.after),
    ("first_completion", optional (fun contract => .text contract.asStr) payload.firstCompletion),
    ("proof_event_id", optional .number payload.proofEventId)]

end Json

/-- The text of a checkpoint. -/
def checkpointText (payload : ChallengeReplayPayload) : Encoded ChallengeReplayPayload :=
  encode "" Json.checkpoint payload

def encodeChallengePayload (payload : ChallengeReplayPayload) :
    Except ReplayError (Encoded ChallengeReplayPayload) := do
  payload.validate
  rejectIf ((checkpointText payload).length > maxChallengePayloadBytes)
    (invalidModule "challenge payload exceeds its bound")
  return checkpointText payload

/-- What was encoded is decoded to the same checkpoint. -/
theorem decode_encodeChallengePayload {payload : ChallengeReplayPayload}
    {encoded : Encoded ChallengeReplayPayload}
    (stored : encodeChallengePayload payload = .ok encoded) :
    decodeChallengePayload (.challenge encoded) = .ok payload := by
  simp only [encodeChallengePayload, bind_eq_ok, exists_unit, rejectIf_eq_ok, pure_eq_ok] at stored
  obtain ⟨valid, short, rfl⟩ := stored
  simp only [decodeChallengePayload, bind_eq_ok, exists_unit, require_eq_ok, rejectIf_eq_ok,
    pure_eq_ok]
  exact ⟨_, rfl, short, payload, rfl, valid, rfl⟩

/-! ## How long the parts get -/

/-- An identifier of the alphabet the server issues: no letter of it is escaped
in JSON, and each takes one byte. -/
def PlainIdentifier (text : String) : Prop :=
  ∀ letter ∈ text.toList, letter.isAlphanum = true ∨ letter ∈ [':', '_', '.', '-']

instance (text : String) : Decidable (PlainIdentifier text) :=
  inferInstanceAs (Decidable (∀ letter ∈ text.toList, _))

theorem utf8Size_plain {letter : Char}
    (plain : letter.isAlphanum = true ∨ letter ∈ [':', '_', '.', '-']) : letter.utf8Size = 1 := by
  rw [Char.utf8Size_eq_one_iff, UInt32.le_iff_toNat_le]
  rcases plain with alphanumeric | mark
  · unfold Char.isAlphanum Char.isAlpha Char.isUpper Char.isLower Char.isDigit at alphanumeric
    simp only [Bool.or_eq_true, Bool.and_eq_true, decide_eq_true_eq, UInt32.le_iff_toNat_le,
      ge_iff_le] at alphanumeric
    have upperEnd : 'Z'.val.toNat = 90 := rfl
    have lowerEnd : 'z'.val.toNat = 122 := rfl
    have digitEnd : '9'.val.toNat = 57 := rfl
    have bound : (127 : UInt32).toNat = 127 := rfl
    omega
  · simp only [List.mem_cons, List.not_mem_nil, or_false] at mark
    rcases mark with rfl | rfl | rfl | rfl <;> decide

theorem length_plain {text : String} (plain : PlainIdentifier text) :
    text.length = text.utf8ByteSize := by
  induction text using String.push_induction with
  | empty => rfl
  | push text letter inductionHypothesis =>
      rw [PlainIdentifier, String.toList_push] at plain
      have rest := inductionHypothesis
        (fun other member => plain other (List.mem_append_left _ member))
      have last := utf8Size_plain (plain letter (List.mem_append_right _ List.mem_cons_self))
      rw [String.length_push, String.utf8ByteSize_push, rest, last]

/-- A number of a save. -/
theorem size_natural_le {value : Nat} (bound : value ≤ maxRevision) :
    (Json.natural value).size ≤ 19 := by
  apply Json.numberSize_natCast_le (by decide)
  unfold maxRevision at bound
  omega

theorem size_text_le {text : String} {width : Nat} (bound : text.length ≤ width) :
    (Json.text text).size ≤ width + 2 :=
  Nat.add_le_add_right bound 2

theorem size_optional_le {Value : Type} {toJson : Value → Json} {value : Option Value} {width : Nat}
    (wide : 4 ≤ width) (bound : ∀ present ∈ value, (toJson present).size ≤ width) :
    (Json.optional toJson value).size ≤ width := by
  cases value with
  | none => exact wide
  | some present => exact bound present rfl

theorem weaponId_length {weaponId : String} {profile : WeaponProfile}
    (known : weaponProfile weaponId = some profile) : weaponId.length ≤ 14 := by
  unfold weaponProfile at known
  obtain ⟨item, found, -⟩ := Option.map_eq_some_iff.mp known
  have named := List.find?_some found
  rw [decide_eq_true_eq] at named
  rw [← named]
  cases item <;> decide

theorem moduleText_length (moduleId : ModuleId) : moduleId.asStr.length ≤ 22 := by
  cases moduleId <;> decide

theorem size_equipment_le {equipment : Equipment} (valid : equipment.validate = .ok ()) :
    (Json.equipment equipment).size ≤ 185 := by
  simp only [Equipment.validate, Equipment.profile, bind_eq_ok, exists_unit, rejectIf_eq_ok,
    require_eq_ok, not_or, not_not, Nat.not_lt] at valid
  obtain ⟨⟨revision, catalog, canonical⟩, _, ⟨weapon, known, -⟩, -⟩ := valid
  have short := (canonicalizeLoadout_iff.mp canonical).1
  have modules : (Json.array (equipment.modules.map (fun moduleId =>
      Json.text moduleId.asStr))).size ≤ 77 := by
    refine (Json.size_array_le _).trans ?_
    rw [List.map_map]
    have each := List.sum_le_card_nsmul (equipment.modules.map ((fun item => item.size + 1) ∘
      fun moduleId => Json.text moduleId.asStr)) 25 (by
        intro size member
        obtain ⟨moduleId, -, rfl⟩ := List.mem_map.mp member
        exact Nat.succ_le_succ (size_text_le (moduleText_length moduleId)))
    rw [List.length_map, Nat.nsmul_eq_mul] at each
    omega
  have within : List.Forall₂ (fun field width => field.1 = width.1 ∧ field.2.size ≤ width.2)
      [("loadout_revision", Json.natural equipment.loadoutRevision),
        ("catalog_revision", .text equipment.catalogRevision), ("weapon_id", .text equipment.weaponId),
        ("modules", .array (equipment.modules.map (fun moduleId => .text moduleId.asStr)))]
      [("loadout_revision", 19), ("catalog_revision", 8), ("weapon_id", 16), ("modules", 77)] := by
    refine .cons ⟨rfl, size_natural_le revision⟩ (.cons ⟨rfl, ?_⟩
      (.cons ⟨rfl, size_text_le (weaponId_length known)⟩ (.cons ⟨rfl, modules⟩ .nil)))
    rw [catalog]
    decide
  exact (Json.size_object_le (List.cons_ne_nil _ _) within).trans (by decide)

/-- What a run takes besides the names of its rules and its recorded time. -/
theorem size_challengeRun_le {run : ChallengeRun} (past : run.runId ≤ maxRevision)
    (equipment : run.equipment.validate = .ok ())
    (bounded : ∀ elapsed ∈ run.elapsedMs, elapsed ≤ maxRevision) :
    (Json.challengeRun run).size ≤ (Json.rules run.rules).size + 255 +
      if run.elapsedMs.isSome = true then 33 else 0 := by
  have objectives : (Json.natural run.objectives.toNat).size ≤ 3 := by
    apply Json.numberSize_natCast_le (by decide)
    have word := run.objectives.isLt
    omega
  have runId := size_natural_le past
  have equipmentSize := size_equipment_le equipment
  have names : "run_id".length = 6 ∧ "rules".length = 5 ∧ "equipment".length = 9 ∧
      "objectives".length = 10 ∧ "elapsed_ms".length = 10 := by decide
  rw [Json.challengeRun, Json.size_object (List.append_ne_nil_of_left_ne_nil
    (List.cons_ne_nil _ _) _), List.map_append, List.sum_append]
  simp only [List.map_cons, List.map_nil, List.sum_cons, List.sum_nil, Json.fieldSize]
  cases elapsed : run.elapsedMs with
  | none =>
      simp only [Option.map_none, Option.toList_none, List.map_nil, List.sum_nil,
        Option.isSome_none, Bool.false_eq_true, if_false]
      omega
  | some time =>
      have time := size_natural_le (bounded time elapsed)
      simp only [Option.map_some, Option.toList_some, List.map_cons, List.map_nil, List.sum_cons,
        List.sum_nil, Json.fieldSize, Option.isSome_some, if_true]
      omega

/-- The room of a run with its rules; only rules with a goal record a time. -/
def runRoom (rules : Rules) : Nat :=
  (Json.rules rules).size + 255 +
    if (rules.preset.timeGoalMs rules.contract).isSome = true then 33 else 0

theorem runRoom_le {rules : Rules} (published : rules.Published) : runRoom rules ≤ 449 := by
  have all : ∀ rules ∈ publishedRules, runRoom rules ≤ 449 := by decide +kernel
  exact all rules published.mem

theorem size_run_le {run : ChallengeRun} {revision : Nat} {completed : Bool}
    (valid : run.Valid revision completed) (bound : revision ≤ maxRevision) :
    (Json.challengeRun run).size ≤ runRoom run.rules := by
  refine (size_challengeRun_le (valid.past.trans bound) valid.admitted.1 valid.bounded).trans ?_
  apply Nat.add_le_add_left
  rw [valid.timed]
  unfold ChallengeRun.timeGoalMs
  cases completed with
  | false => exact Nat.zero_le _
  | true => exact le_refl _

/-- Records of different published rules take no more than one record of each. -/
theorem records_room {records : List ChallengeRun}
    (distinct : records.Pairwise ChallengeState.Distinct)
    (published : ∀ record ∈ records, record.rules.Published) :
    (records.map (fun record => runRoom record.rules + 1)).sum ≤ 6373 := by
  obtain ⟨sorted, same, inside⟩ := ChallengeState.rules_subperm distinct published
  calc (records.map (fun record => runRoom record.rules + 1)).sum
      = ((records.map (·.rules)).map (fun rules => runRoom rules + 1)).sum := by
        rw [List.map_map]
        rfl
    _ = (sorted.map (fun rules => runRoom rules + 1)).sum :=
        ((same.map _).sum_eq).symm
    _ ≤ (publishedRules.map (fun rules => runRoom rules + 1)).sum :=
        (inside.map _).sum_le_sum (fun _ _ => Nat.zero_le _)
    _ ≤ 6373 := by decide +kernel

theorem size_challengeState_le {state : ChallengeState} (valid : state.Valid) :
    (Json.challengeState state).size ≤ 7373 := by
  have each : ∀ record ∈ state.records, (Json.challengeRun record).size ≤ runRoom record.rules :=
    fun record member => size_run_le (valid.records record member).run valid.revision
  have records : (Json.array (state.records.map Json.challengeRun)).size ≤ 6375 := by
    refine (Json.size_array_le _).trans (Nat.add_le_add_right ?_ 2)
    refine le_trans ?_ (records_room valid.distinct
      (fun record member => (valid.records record member).run.published))
    rw [List.map_map]
    apply List.sum_le_sum
    intro record member
    exact Nat.succ_le_succ (each record member)
  have active : (Json.optional Json.challengeRun state.active).size ≤ 449 := by
    apply size_optional_le (by decide)
    intro run present
    have run := valid.active run present
    exact (size_run_le run valid.revision).trans (runRoom_le run.published)
  have result : (Json.optional Json.attemptResult state.lastResult).size ≤ 481 := by
    apply size_optional_le (by decide)
    intro result present
    have ended := valid.result result present
    have run := (size_run_le ended valid.revision).trans (runRoom_le ended.published)
    have outcome : (Json.text (outcomeText result.outcome)).size ≤ 13 := by
      cases result.outcome <;> decide
    have within : List.Forall₂ (fun field width => field.1 = width.1 ∧ field.2.size ≤ width.2)
        [("run", Json.challengeRun result.run), ("outcome", .text (outcomeText result.outcome))]
        [("run", 449), ("outcome", 13)] :=
      .cons ⟨rfl, run⟩ (.cons ⟨rfl, outcome⟩ .nil)
    exact (Json.size_object_le (List.cons_ne_nil _ _) within).trans (by decide)
  have within : List.Forall₂ (fun field width => field.1 = width.1 ∧ field.2.size ≤ width.2)
      [("revision", Json.natural state.revision),
        ("active", Json.optional Json.challengeRun state.active),
        ("last_result", Json.optional Json.attemptResult state.lastResult),
        ("records", .array (state.records.map Json.challengeRun))]
      [("revision", 19), ("active", 449), ("last_result", 481), ("records", 6375)] :=
    .cons ⟨rfl, size_natural_le valid.revision⟩ (.cons ⟨rfl, active⟩ (.cons ⟨rfl, result⟩
      (.cons ⟨rfl, records⟩ .nil)))
  exact (Json.size_object_le (List.cons_ne_nil _ _) within).trans (by decide)

theorem contractText_length (contract : ContractId) : contract.asStr.length ≤ 16 := by
  cases contract <;> decide

theorem presetText_length (preset : Preset) : preset.asStr.length ≤ 28 := by
  cases preset <;> decide

theorem objectiveText_length (objective : Objective) : (objectiveText objective).length ≤ 24 := by
  cases objective <;> decide

theorem reasonText_length (reason : EndReason) : (reasonText reason).length ≤ 11 := by
  cases reason <;> decide

/-- The run a command names. -/
def commandRun? : Command → Option Nat
  | .start .. | .startModified .. => none
  | .retry runId _ | .confirm runId _ | .confirmTimed runId _ _ | .endRun runId _ => some runId

/-- A recordable command whose names and equipment a save can hold too. -/
structure Writable (command : Command) : Prop where
  runId : ∀ runId ∈ commandRun? command, runId ≤ maxRevision
  equipment : ∀ equipment ∈ startEquipment command, equipment.validate = .ok ()
  recordable : command.Recordable

theorem size_command_le {command : Command} (writable : Writable command) :
    (Json.command command).size ≤ 293 := by
  cases command with
  | start contract equipment =>
      have within : List.Forall₂ (fun field width => field.1 = width.1 ∧ field.2.size ≤ width.2)
          [("kind", Json.text "start"), ("contract", .text contract.asStr),
            ("equipment", Json.equipment equipment)]
          [("kind", 7), ("contract", 18), ("equipment", 185)] :=
        .cons ⟨rfl, by decide⟩ (.cons ⟨rfl, size_text_le (contractText_length contract)⟩
          (.cons ⟨rfl, size_equipment_le (writable.equipment _ rfl)⟩ .nil))
      exact (Json.size_object_le (List.cons_ne_nil _ _) within).trans (by decide)
  | startModified contract preset equipment =>
      have within : List.Forall₂ (fun field width => field.1 = width.1 ∧ field.2.size ≤ width.2)
          [("kind", Json.text "start_modified"), ("contract", .text contract.asStr),
            ("preset", .text preset.asStr), ("equipment", Json.equipment equipment)]
          [("kind", 16), ("contract", 18), ("preset", 30), ("equipment", 185)] :=
        .cons ⟨rfl, by decide⟩ (.cons ⟨rfl, size_text_le (contractText_length contract)⟩
          (.cons ⟨rfl, size_text_le (presetText_length preset)⟩
            (.cons ⟨rfl, size_equipment_le (writable.equipment _ rfl)⟩ .nil)))
      exact (Json.size_object_le (List.cons_ne_nil _ _) within).trans (by decide)
  | retry runId equipment =>
      have within : List.Forall₂ (fun field width => field.1 = width.1 ∧ field.2.size ≤ width.2)
          [("kind", Json.text "retry"), ("run_id", Json.natural runId),
            ("equipment", Json.equipment equipment)]
          [("kind", 7), ("run_id", 19), ("equipment", 185)] :=
        .cons ⟨rfl, by decide⟩ (.cons ⟨rfl, size_natural_le (writable.runId _ rfl)⟩
          (.cons ⟨rfl, size_equipment_le (writable.equipment _ rfl)⟩ .nil))
      exact (Json.size_object_le (List.cons_ne_nil _ _) within).trans (by decide)
  | confirm runId objective =>
      have within : List.Forall₂ (fun field width => field.1 = width.1 ∧ field.2.size ≤ width.2)
          [("kind", Json.text "confirm"), ("run_id", Json.natural runId),
            ("objective", .text (objectiveText objective))]
          [("kind", 9), ("run_id", 19), ("objective", 26)] :=
        .cons ⟨rfl, by decide⟩ (.cons ⟨rfl, size_natural_le (writable.runId _ rfl)⟩
          (.cons ⟨rfl, size_text_le (objectiveText_length objective)⟩ .nil))
      exact (Json.size_object_le (List.cons_ne_nil _ _) within).trans (by decide)
  | confirmTimed runId objective elapsedMs =>
      have within : List.Forall₂ (fun field width => field.1 = width.1 ∧ field.2.size ≤ width.2)
          [("kind", Json.text "confirm_timed"), ("run_id", Json.natural runId),
            ("objective", .text (objectiveText objective)), ("elapsed_ms", Json.natural elapsedMs)]
          [("kind", 15), ("run_id", 19), ("objective", 26), ("elapsed_ms", 19)] :=
        .cons ⟨rfl, by decide⟩ (.cons ⟨rfl, size_natural_le (writable.runId _ rfl)⟩
          (.cons ⟨rfl, size_text_le (objectiveText_length objective)⟩
            (.cons ⟨rfl, size_natural_le (writable.recordable _ _ _ rfl)⟩ .nil)))
      exact (Json.size_object_le (List.cons_ne_nil _ _) within).trans (by decide)
  | endRun runId reason =>
      have within : List.Forall₂ (fun field width => field.1 = width.1 ∧ field.2.size ≤ width.2)
          [("kind", Json.text "end"), ("run_id", Json.natural runId),
            ("reason", .text (reasonText reason))]
          [("kind", 5), ("run_id", 19), ("reason", 13)] :=
        .cons ⟨rfl, by decide⟩ (.cons ⟨rfl, size_natural_le (writable.runId _ rfl)⟩
          (.cons ⟨rfl, size_text_le (reasonText_length reason)⟩ .nil))
      exact (Json.size_object_le (List.cons_ne_nil _ _) within).trans (by decide)

theorem writable_of_confirmation {command : Command} {runId : Nat} {objective : Objective}
    {elapsedMs : Option Nat} (asked : command.confirmation = some (runId, objective, elapsedMs))
    (run : runId ≤ maxRevision) (bounded : ∀ elapsed ∈ elapsedMs, elapsed ≤ maxRevision) :
    Writable command := by
  cases command <;> cases asked
  case confirm =>
    refine ⟨?_, ?_, ?_⟩
    · rintro _ ⟨⟩
      exact run
    · rintro _ ⟨⟩
    · rintro _ _ _ ⟨⟩
  case confirmTimed elapsed =>
    refine ⟨?_, ?_, ?_⟩
    · rintro _ ⟨⟩
      exact run
    · rintro _ ⟨⟩
    · rintro _ _ _ ⟨⟩
      exact bounded elapsed rfl

/-- A step takes its numbers from the save before it or puts them into the one
after it. -/
theorem writable_of_step {policy : Policy} {before : ChallengeState} {command : Command}
    {transition : Transition} (step : Step policy before.advanced command transition)
    (valid : before.Valid) (after : transition.state.Valid) : Writable command := by
  have activeId : ∀ run, before.active = some run → run.runId ≤ maxRevision :=
    fun run active => (valid.active run active).past.trans valid.revision
  cases step with
  | start available idle admitted published =>
      refine ⟨?_, ?_, ?_⟩
      · rintro _ ⟨⟩
      · rintro _ ⟨⟩
        exact admitted.1
      · rintro _ _ _ ⟨⟩
  | startModified latest modified idle admitted published =>
      refine ⟨?_, ?_, ?_⟩
      · rintro _ ⟨⟩
      · rintro _ ⟨⟩
        exact admitted.1
      · rintro _ _ _ ⟨⟩
  | retryActive active admitted published =>
      refine ⟨?_, ?_, ?_⟩
      · rintro _ ⟨⟩
        exact activeId _ active
      · rintro _ ⟨⟩
        exact admitted.1
      · rintro _ _ _ ⟨⟩
  | retryEnded idle last admitted published =>
      refine ⟨?_, ?_, ?_⟩
      · rintro _ ⟨⟩
        exact (valid.result _ last).past.trans valid.revision
      · rintro _ ⟨⟩
        exact admitted.1
      · rintro _ _ _ ⟨⟩
  | @confirm _ run objective bit elapsedMs active asked confirms open' =>
      have bounded := (after.active _ rfl).bounded
      exact writable_of_confirmation asked (activeId run active) bounded
  | @complete _ run objective bit elapsedMs active asked confirms full =>
      have bounded := (after.result _ rfl).bounded
      exact writable_of_confirmation asked (activeId run active) bounded
  | endRun active =>
      refine ⟨?_, ?_, ?_⟩
      · rintro _ ⟨⟩
        exact activeId _ active
      · rintro _ ⟨⟩
      · rintro _ _ _ ⟨⟩

/-! ## A save of any size is written -/

theorem identifier_length {text : String} {bound : Nat} (plain : PlainIdentifier text)
    (short : text.utf8ByteSize ≤ bound) : text.length ≤ bound :=
  (length_plain plain).trans_le short

/-- Every legal transition of a save fits its row and is read back from it. -/
theorem checkpoint_fits {payload : ChallengeReplayPayload} (formed : payload.WellFormed)
    (produced : payload.Produced) (plain : PlainIdentifier payload.characterId)
    (row : ∀ id ∈ payload.proofEventId, id ≤ (maxRevision : Int)) :
    ∃ encoded, encodeChallengePayload payload = .ok encoded ∧
      encoded.length ≤ maxChallengePayloadBytes ∧
      decodeChallengePayload (.challenge encoded) = .ok payload := by
  have short : (checkpointText payload).length ≤ maxChallengePayloadBytes := by
    obtain ⟨policy, named, applied⟩ := produced
    obtain ⟨ready, step, after⟩ := apply_iff.mp applied
    have policyText : (Json.text payload.policyRevision).size ≤ 19 := by
      have same := List.find?_some named
      rw [decide_eq_true_eq] at same
      rw [← same]
      cases policy <;> decide
    have schema : (Json.natural payload.schemaVersion).size ≤ 1 := by
      rw [formed.schema]
      decide
    have operation : PlainIdentifier payload.operationId := by
      intro letter member
      have allowed := List.all_eq_true.mp formed.operation.2.2 letter member
      rw [Bool.or_eq_true, beq_iff_eq] at allowed
      rcases allowed with alphanumeric | rfl
      · exact Or.inl alphanumeric
      · exact Or.inr (by decide)
    have first : (Json.optional (fun contract : ContractId => Json.text contract.asStr)
        payload.firstCompletion).size ≤ 18 := by
      apply size_optional_le (by decide)
      intro contract _
      exact size_text_le (contractText_length contract)
    have proof : (Json.optional Json.number payload.proofEventId).size ≤ 20 := by
      apply size_optional_le (by decide)
      intro id present
      have bound := row id present
      by_cases required : payload.requiresProof = true
      · obtain ⟨positive, same, natural⟩ := formed.proof required
        cases Option.mem_unique same present
        obtain ⟨value, rfl⟩ := Int.eq_ofNat_of_zero_le natural.le
        exact (size_natural_le (Int.ofNat_le.mp bound)).trans (by decide)
      · rw [formed.noProof (by simpa using required)] at present
        cases present
    have within : List.Forall₂ (fun field width => field.1 = width.1 ∧ field.2.size ≤ width.2)
        [("schema_version", Json.natural payload.schemaVersion),
          ("policy_revision", .text payload.policyRevision),
          ("character_id", .text payload.characterId), ("operation_id", .text payload.operationId),
          ("before", Json.challengeState payload.before), ("command", Json.command payload.command),
          ("after", Json.challengeState payload.after),
          ("first_completion", Json.optional (fun contract => .text contract.asStr)
            payload.firstCompletion),
          ("proof_event_id", Json.optional .number payload.proofEventId)]
        [("schema_version", 1), ("policy_revision", 19), ("character_id", 258),
          ("operation_id", 98), ("before", 7373), ("command", 293), ("after", 7373),
          ("first_completion", 18), ("proof_event_id", 20)] := by
      refine .cons ⟨rfl, schema⟩ (.cons ⟨rfl, policyText⟩ (.cons ⟨rfl, ?_⟩ (.cons ⟨rfl, ?_⟩
        (.cons ⟨rfl, ?_⟩ (.cons ⟨rfl, ?_⟩ (.cons ⟨rfl, ?_⟩ (.cons ⟨rfl, first⟩
          (.cons ⟨rfl, proof⟩ .nil))))))))
      · exact size_text_le (identifier_length plain formed.character.2)
      · exact size_text_le (identifier_length operation formed.operation.2.1)
      · exact size_challengeState_le ready.valid
      · exact size_command_le (writable_of_step step ready.valid after)
      · exact size_challengeState_le after
    have size := Json.size_object_le (List.cons_ne_nil _ _) within
    refine le_trans ?_ (size.trans (by decide))
    exact (Nat.zero_add _).le
  have encoded : encodeChallengePayload payload = .ok (checkpointText payload) := by
    simp only [encodeChallengePayload, bind_eq_ok, exists_unit, rejectIf_eq_ok, pure_eq_ok]
    exact ⟨ChallengeReplayPayload.validate_iff.mpr ⟨formed, produced⟩, Nat.not_lt.mpr short, trivial⟩
  exact ⟨_, encoded, short, decode_encodeChallengePayload encoded⟩

/-- The first checkpoint of a character. -/
def admissionEntry : ChallengeReplayPayload where
  schemaVersion := 1
  policyRevision := "m37-challenges-v8"
  characterId := "reconstructed:vanguard:operator"
  operationId := "challenge-start-1"
  before := .default
  command := .startModified .relayGauntlet .pace (admissionEquipment)
  after := ChallengeState.default.advanced.withRun
    { ContractId.rules .relayGauntlet with gameplayRevision := "m37-modifiers-v1", preset := .pace }
    admissionEquipment
  firstCompletion := none
  proofEventId := some 41
where
  admissionEquipment : Equipment :=
    { loadoutRevision := 3, catalogRevision := "m35-v2", weaponId := "rail_driver", modules := [] }

theorem checkpoint_fits_admission : (checkpointText admissionEntry).length = 778 ∧
    decodeChallengePayload (.challenge (checkpointText admissionEntry)) = .ok admissionEntry := by
  have valid : admissionEntry.validate = .ok () := by decide +kernel
  obtain ⟨formed, produced⟩ := ChallengeReplayPayload.validate_iff.mp valid
  have plain : PlainIdentifier admissionEntry.characterId := by
    simp [PlainIdentifier, admissionEntry]
  obtain ⟨encoded, stored, -, decoded⟩ := checkpoint_fits formed produced plain (by decide)
  have same : encodeChallengePayload admissionEntry = .ok (checkpointText admissionEntry) := by
    decide +kernel
  cases stored.symm.trans same
  exact ⟨by decide +kernel, decoded⟩

end Replay
end Revenant
