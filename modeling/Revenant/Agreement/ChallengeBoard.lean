import Revenant.Client.ChallengeState
import Revenant.Gateway.Challenges
import Revenant.Agreement.MasteryArchive

namespace Revenant
namespace Agreement
namespace ChallengeBoard

open Library Challenges Client Client.ChallengeState

/-!
# The client keeps every board the gateway builds

Each check of the client is met by what the gateway projects from a valid save:
first a contract under published rules, then a run, the lists of a board, and
the mastery archive against the board it is sent with.

The board is that of a save reached by any history under any policy, and the
board the client showed before may be any.
-/

/-! ## Contracts -/

/-- What the client reads off a contract under published rules. -/
structure ReadsRules (rules : Rules) (contract : Variant) : Prop where
  contractId : (contract.get "contract_id").text? = some rules.contract.asStr
  preset : presetId contract = rules.preset.asStr
  mask : fullMask contract = .ok (rules.contract.completeMask.toNat : Int)
  goal : (timeGoal contract).isSome = (rules.preset.timeGoalMs rules.contract).isSome

theorem reads_rules {rules : Rules} (published : rules.Published) :
    ReadsRules rules (Gateway.Challenges.ruledContract rules).serialize := by
  have all : ∀ rules ∈ publishedRules,
      let contract := (Gateway.Challenges.ruledContract rules).serialize
      (contract.get "contract_id").text? = some rules.contract.asStr ∧
      presetId contract = rules.preset.asStr ∧
      fullMask contract = .ok (rules.contract.completeMask.toNat : Int) ∧
      (timeGoal contract).isSome = (rules.preset.timeGoalMs rules.contract).isSome := by
    decide +kernel
  obtain ⟨contractId, preset, mask, goal⟩ := all rules published.mem
  exact ⟨contractId, preset, mask, goal⟩

/-- A policy before the modifiers shows baseline rules only. -/
def Shown (rules : Rules) (modified : Bool) : Prop := rules.preset = .baseline ∨ modified = true

theorem validContract_ruled {rules : Rules} {modified : Bool} (published : rules.Published)
    (shown : Shown rules modified) :
    validContract (Gateway.Challenges.ruledContract rules).serialize modified = .ok () := by
  have all : ∀ rules ∈ publishedRules, ∀ modified ∈ [true, false],
      rules.preset = .baseline ∨ modified = true →
        validContract (Gateway.Challenges.ruledContract rules).serialize modified = .ok () := by
    decide +kernel
  refine all rules published.mem modified ?_ shown
  cases modified <;> simp

theorem toNat_le_mask {contract : ContractId} {objectives : BitVec 8}
    (known : objectives &&& ~~~ contract.completeMask = 0) :
    objectives.toNat ≤ contract.completeMask.toNat := by
  revert objectives
  cases contract <;> decide +kernel

theorem toNat_inOrder {objectives : BitVec 8} (inOrder : objectives ∈ ([0, 1, 3, 7] : List (BitVec 8))) :
    (objectives.toNat : Int) ∈ ([0, 1, 3, 7] : List Int) := by
  revert objectives
  decide +kernel

theorem ordered_of_text {contract : ContractId}
    (listed : contract.asStr ∈ ["coolant_recovery", "last_reserve", "relay_gauntlet"]) :
    contract.ordered = true := by
  revert listed
  cases contract <;> decide

/-! ## Runs -/

section Runs

variable {value : ChallengeRun} {revision : Nat} {completed modified : Bool}

/-- The client finds a run complete exactly when the save does. -/
theorem complete_run (valid : value.Valid revision completed) :
    complete (Gateway.Challenges.run value).serialize = .ok completed := by
  have reads := reads_rules valid.published
  have objectives : ((Gateway.Challenges.run value).serialize.get "objectives").integer? =
      some (value.objectives.toNat : Int) := rfl
  have contract : (Gateway.Challenges.run value).serialize.get "contract" =
      (Gateway.Challenges.ruledContract value.rules).serialize := rfl
  unfold complete
  rw [objectives, contract, reads.mask]
  have full := valid.full
  change Except.ok _ = _
  congr 1
  rw [← full]
  unfold ChallengeRun.mask
  rw [Bool.eq_iff_iff, beq_iff_eq, beq_iff_eq, Int.ofNat_inj, BitVec.toNat_inj]

theorem elapsed_run (value : ChallengeRun) :
    (Gateway.Challenges.run value).serialize.get "elapsed_ms" = .ofOption value.elapsedMs := by
  unfold Gateway.Challenges.run
  cases value.elapsedMs with
  | none => rfl
  | some elapsed => rfl

theorem validEquipment_run (admitted : value.equipment.Admitted value.rules.contract) :
    validEquipment ((Gateway.Challenges.run value).serialize.get "equipment") = .ok () := by
  have catalog : value.equipment.catalogRevision = "m35-v2" := by
    have checked := admitted.1
    unfold Equipment.validate at checked
    rw [guard_bind_eq_ok, rejectIf_eq_ok] at checked
    simp only [not_or, not_not] at checked
    exact checked.1.2.1
  change validEquipment (.dictionary [("loadout_revision", .integer value.equipment.loadoutRevision),
    ("catalog_revision", .text value.equipment.catalogRevision),
    ("weapon_id", .text value.equipment.weaponId),
    ("modules", .array ((value.equipment.modules.map ModuleId.asStr).map .text))]) = .ok ()
  rw [catalog]
  unfold validEquipment
  simp only [bind_eq_ok, exists_unit, require_eq_ok, rejectIf_eq_ok]
  refine ⟨not_not.mpr rfl, _, rfl, ?_, ?_⟩
  · simp
  · exact not_not.mpr ⟨rfl, rfl⟩

/-- Every run of a valid save is one the client accepts. -/
theorem validRun_run {available : List String} (valid : value.Valid revision completed)
    (listed : value.rules.contract.asStr ∈ available) (shown : Shown value.rules modified) :
    validRun revision available modified (Gateway.Challenges.run value).serialize = .ok () := by
  have reads := reads_rules valid.published
  have contract : (Gateway.Challenges.run value).serialize.get "contract" =
      (Gateway.Challenges.ruledContract value.rules).serialize := rfl
  have objectives : ((Gateway.Challenges.run value).serialize.getOr "objectives"
      (.integer (-1))).integer? = some (value.objectives.toNat : Int) := rfl
  have runId : ((Gateway.Challenges.run value).serialize.getOr "run_id" (.integer 0)).integer? =
      some (value.runId : Int) := rfl
  unfold validRun
  simp only [bind_eq_ok, exists_unit, require_eq_ok, rejectIf_eq_ok, contract]
  refine ⟨validContract_ruled valid.published shown, _, reads.contractId, not_not.mpr listed, _,
    objectives, ?_, _, runId, ?_, _, reads.mask, ?_, _, complete_run valid, ?_, ?_,
    validEquipment_run valid.admitted⟩
  · rintro ⟨ordered, outside⟩
    exact outside (toNat_inOrder (valid.inOrder (ordered_of_text ordered)))
  · have started := valid.started
    have past := valid.past
    omega
  · have inside := toNat_le_mask valid.known
    change ¬ (_ ∨ _)
    omega
  · rw [elapsed_run, reads.goal]
    have timed := valid.timed
    unfold ChallengeRun.timeGoalMs at timed
    rw [← timed, not_not]
    cases value.elapsedMs <;> rfl
  · rw [elapsed_run]
    exact MasteryArchive.validNumber_ofOption _

end Runs

/-! ## The lists of a board -/

/-- The contracts a policy shows. -/
def available (policy : Policy) : List String :=
  (ContractId.all.filter (fun id => id.availableIn policy)).map ContractId.asStr

theorem policies_lookup (policy : Policy) :
    policies.lookup policy.text = some (available policy) := by
  cases policy <;> rfl

theorem asStr_mem_available {contract : ContractId} {policy : Policy}
    (published : contract.availableIn policy = true) : contract.asStr ∈ available policy := by
  refine List.mem_map_of_mem (List.mem_filter.mpr ⟨ContractId.mem_all _, published⟩)

theorem validContracts_snapshot (policy : Policy) :
    validContracts (available policy) [] (((ContractId.all.filter
      (fun id => id.availableIn policy)).map Gateway.Challenges.contract).map
        Protocol.ChallengeContract.serialize) = .ok () := by
  cases policy <;> rfl

/-- The board's variants, or the default of a board without that field. -/
def sentVariants (policy : Policy) : Variant :=
  .array ((Gateway.Challenges.variants policy).map Protocol.ChallengeVariant.serialize)

theorem validVariants_snapshot (policy : Policy) :
    validVariants (sentVariants policy) (decide (policy = .modifier)) = .ok () := by
  cases policy <;> rfl

def identityText (rules : Rules) : String := rules.contract.asStr ++ ":" ++ rules.preset.asStr

theorem identityText_inj {first second : Rules} (left : first.Published) (right : second.Published)
    (same : identityText first = identityText second) : first = second := by
  have all : ∀ first ∈ publishedRules, ∀ second ∈ publishedRules,
      identityText first = identityText second → first = second := by
    decide +kernel
  exact all first left.mem second right.mem same

theorem recordIdentity_run {value : ChallengeRun} (published : value.rules.Published) :
    recordIdentity (Gateway.Challenges.run value).serialize = .ok (identityText value.rules) := by
  have reads := reads_rules published
  change recordIdentity (.dictionary _) = _
  unfold recordIdentity
  change ((require ((Gateway.Challenges.ruledContract value.rules).serialize.get
    "contract_id").text? ()) >>= fun contractId => pure (contractId ++ ":" ++
      presetId (Gateway.Challenges.ruledContract value.rules).serialize)) = _
  rw [reads.contractId, reads.preset]
  rfl

/-- Records with distinct rules have distinct identities. -/
theorem validRecords_runs {records : List ChallengeRun} {revision : Nat} {listed : List String}
    {modified : Bool} (valid : ∀ record ∈ records, record.Valid revision true)
    (shown : ∀ record ∈ records, record.rules.contract.asStr ∈ listed ∧ Shown record.rules modified)
    (distinct : (records.map (·.rules)).Nodup) {earlier : List Rules}
    (published : ∀ rules ∈ earlier, rules.Published)
    (apart : ∀ rules ∈ earlier, ∀ record ∈ records, rules ≠ record.rules) :
    validRecords revision listed modified (earlier.map identityText)
      ((records.map Gateway.Challenges.run).map Protocol.ChallengeRun.serialize) = .ok () := by
  induction records generalizing earlier with
  | nil => rfl
  | cons record rest inductionHypothesis =>
      have own := valid record List.mem_cons_self
      have ownShown := shown record List.mem_cons_self
      rw [List.map_cons, List.nodup_cons] at distinct
      simp only [List.map_cons, validRecords, bind_eq_ok, exists_unit, rejectIf_eq_ok]
      refine ⟨validRun_run own ownShown.1 ownShown.2, _, complete_run own, by decide, _,
        recordIdentity_run own.published, ?_, ?_⟩
      · intro repeated
        obtain ⟨rules, member, same⟩ := List.mem_map.mp repeated
        exact apart rules member record List.mem_cons_self
          (identityText_inj (published rules member) own.published same)
      · have grown : earlier.map identityText ++ [identityText record.rules] =
            (earlier ++ [record.rules]).map identityText := by
          rw [List.map_append]
          rfl
        rw [grown]
        apply inductionHypothesis
        · exact fun other member => valid other (List.mem_cons_of_mem _ member)
        · exact fun other member => shown other (List.mem_cons_of_mem _ member)
        · exact distinct.2
        · intro rules member
          rcases List.mem_append.mp member with old | new
          · exact published rules old
          · exact List.mem_singleton.mp new ▸ own.published
        · intro rules member other otherMember same
          rcases List.mem_append.mp member with old | new
          · exact apart rules old other (List.mem_cons_of_mem _ otherMember) same
          · rw [List.mem_singleton.mp new] at same
            exact distinct.1 (same ▸ List.mem_map_of_mem otherMember)

/-- Under a policy without modifiers there is at most one record a contract. -/
theorem records_length {state : ChallengeState} {policy : Policy} (valid : state.Valid)
    (supported : state.supportsPolicy policy = true) :
    state.records.length ≤ if decide (policy = .modifier) then 16 else (available policy).length := by
  by_cases modified : policy = .modifier
  · simp only [modified, decide_true, if_true]
    exact valid.bounded
  · simp only [modified, decide_false, Bool.false_eq_true, if_false]
    have plain : ∀ record ∈ state.records, record.rules.contract.availableIn policy = true ∧
        record.rules.preset = .baseline := by
      intro record member
      have listed : record ∈ state.runs := List.mem_append_right _ member
      have readable := List.all_eq_true.mp supported record listed
      unfold Rules.availableIn at readable
      simpa [modified] using readable
    have apart : (state.records.map (fun record => record.rules.contract)).Nodup := by
      rw [List.nodup_iff_pairwise_ne, List.pairwise_map]
      refine valid.distinct.imp_of_mem ?_
      intro first second left right distinct same
      exact distinct.1 ((valid.records first left).run.published.ext
        (valid.records second right).run.published same
        ((plain first left).2.trans (plain second right).2.symm))
    have listed : state.records.map (fun record => record.rules.contract) ⊆
        ContractId.all.filter (fun id => id.availableIn policy) := by
      intro contract member
      obtain ⟨record, present, rfl⟩ := List.mem_map.mp member
      exact List.mem_filter.mpr ⟨ContractId.mem_all _, (plain record present).1⟩
    have bound := (List.subperm_of_subset apart listed).length_le
    simpa only [available, List.length_map] using bound

/-! ## The whole board -/

section Board

open Gateway.Challenges (BoardQuery)

/-- The board as it is sent. -/
def sent (character : String) (state : ChallengeState) (policy : Policy)
    (mastery : Option Archive) : Variant :=
  { Gateway.Challenges.snapshot character state policy with
    mastery := mastery.map Gateway.Challenges.masterySnapshot : Protocol.ChallengeSnapshot }.serialize

variable {character : String} {state : ChallengeState} {policy : Policy} {mastery : Option Archive}

theorem sent_variants :
    (sent character state policy mastery).getOr "variants" (.array []) = sentVariants policy := by
  cases policy <;> cases mastery <;> rfl

theorem sent_elapsed : (sent character state policy mastery).get "elapsed_ms" = .nil := by
  cases policy <;> cases mastery <;> rfl

theorem sent_mastery : (sent character state policy mastery).get "mastery" =
    ((mastery.map Gateway.Challenges.masterySnapshot).map
      Protocol.ChallengeMasteryArchive.serialize).getD .nil := by
  cases policy <;> cases mastery <;> rfl

theorem sent_shows : MasteryArchive.ShowsState state (sent character state policy mastery) := by
  constructor
  · rfl
  · change (((state.records.map Gateway.Challenges.run).map
      Protocol.ChallengeRun.serialize).filterMap _) = _
    induction state.records with
    | nil => rfl
    | cons record rest inductionHypothesis =>
        rw [List.map_cons, List.map_cons, List.filterMap_cons, inductionHypothesis]
        rfl
  · change ((state.lastResult.map Gateway.Challenges.result).map
      Protocol.ChallengeResult.serialize).getD .nil = _
    rw [Option.map_map]
    rfl

theorem supported_run (supported : state.supportsPolicy policy = true) {run : ChallengeRun}
    (member : run ∈ state.runs) : run.rules.contract.asStr ∈ available policy ∧
      Shown run.rules (decide (policy = .modifier)) := by
  have readable := List.all_eq_true.mp supported run member
  unfold Rules.availableIn at readable
  rw [Bool.and_eq_true, Bool.or_eq_true] at readable
  refine ⟨asStr_mem_available readable.1, readable.2.imp ?_ ?_⟩
  · exact fun plain => by simpa using plain
  · exact fun latest => by simpa using latest

theorem validActive_sent (valid : state.Valid) (supported : state.supportsPolicy policy = true) :
    validActive state.revision (available policy) (decide (policy = .modifier))
      ((state.active.map Gateway.Challenges.run).map Protocol.ChallengeRun.serialize |>.getD .nil) =
      .ok () := by
  cases active : state.active with
  | none => rfl
  | some run =>
      have shown := supported_run supported
        (show run ∈ state.runs by simp [ChallengeState.runs, active])
      have own := valid.active run active
      change (do
        validRun _ _ _ (Gateway.Challenges.run run).serialize
        let full ← complete (Gateway.Challenges.run run).serialize
        rejectIf (full = true) ()) = _
      simp only [bind_eq_ok, exists_unit, rejectIf_eq_ok]
      exact ⟨validRun_run own shown.1 shown.2, _, complete_run own, by decide⟩

theorem validResult_sent (valid : state.Valid) (supported : state.supportsPolicy policy = true) :
    validResult state.revision (available policy) (decide (policy = .modifier))
      ((state.lastResult.map Gateway.Challenges.result).map
        Protocol.ChallengeResult.serialize |>.getD .nil) = .ok () := by
  cases ended : state.lastResult with
  | none => rfl
  | some result =>
      have shown := supported_run supported
        (show result.run ∈ state.runs by simp [ChallengeState.runs, ended])
      have own := valid.result result ended
      change (do
        let outcome ← require (some (Gateway.Challenges.outcomeText result.outcome)) ()
        rejectIf (outcome ∉ ["completed", "abandoned", "interrupted", "defeated"]) ()
        validRun _ _ _ (Gateway.Challenges.run result.run).serialize
        let full ← complete (Gateway.Challenges.run result.run).serialize
        rejectIf (outcome = "completed" ∧ full = false) ()) = _
      simp only [bind_eq_ok, exists_unit, rejectIf_eq_ok, require_eq_ok]
      refine ⟨_, rfl, ?_, validRun_run own shown.1 shown.2, _, complete_run own, ?_⟩
      · cases result.outcome <;> decide
      · cases result.outcome <;> decide

theorem validRecords_sent (valid : state.Valid) (supported : state.supportsPolicy policy = true) :
    validRecords state.revision (available policy) (decide (policy = .modifier)) []
      ((state.records.map Gateway.Challenges.run).map Protocol.ChallengeRun.serialize) = .ok () := by
  have distinct : (state.records.map (·.rules)).Nodup := by
    rw [List.nodup_iff_pairwise_ne, List.pairwise_map]
    exact valid.distinct.imp (fun apart => apart.1)
  have none : ∀ rules ∈ ([] : List Rules), rules.Published := by
    intro rules impossible
    cases impossible
  have apart : ∀ rules ∈ ([] : List Rules), ∀ record ∈ state.records, rules ≠ record.rules := by
    intro rules impossible
    cases impossible
  exact validRecords_runs (fun record member => (valid.records record member).run)
    (fun record member => supported_run supported (List.mem_append_right _ member)) distinct none apart

/-- The client keeps a board unless it already shows a later one. -/
theorem apply_sent (valid : state.Valid) (supported : state.supportsPolicy policy = true)
    (named : character ≠ "") (fits : ∀ archive ∈ mastery, Persistence.ArchiveFits state archive)
    {shown : Option Variant} {selected : String} (own : selected = "" ∨ selected = character)
    (same : ∀ previous ∈ shown, (previous.get "character_id").text? = some character)
    (older : ∀ previous ∈ shown, ∃ revision : Nat, revision ≤ state.revision ∧
      (previous.get "state_revision").integer? = some (revision : Int)) :
    ChallengeState.apply shown (sent character state policy mastery) selected =
      .ok (sent character state policy mastery) := by
  have order : validOrder shown (sent character state policy mastery) selected =
      .ok (state.revision : Int) := by
    unfold validOrder
    simp only [bind_eq_ok, exists_unit, require_eq_ok, rejectIf_eq_ok, pure_eq_ok]
    refine ⟨_, rfl, named, ?_, ?_, _, rfl, ?_, rfl⟩
    · rintro ⟨chosen, other⟩
      rcases own with rfl | rfl
      · exact chosen rfl
      · exact other rfl
    · rintro ⟨previous, present, other⟩
      exact other (same previous present)
    · cases shown with
      | none => simp
      | some previous =>
          obtain ⟨revision, past, read⟩ := older previous rfl
          rw [Option.bind_some, read, Option.getD_some]
          change ¬ ((state.revision : Int) < 0 ∨ (state.revision : Int) < (revision : Int))
          omega
  have mode : decide (policy.text = "m37-challenges-v8") = decide (policy = .modifier) := by
    cases policy <;> rfl
  unfold ChallengeState.apply
  simp only [bind_eq_ok, exists_unit, require_eq_ok, rejectIf_eq_ok, pure_eq_ok]
  refine ⟨not_not.mpr rfl, policy.text, rfl, _, policies_lookup policy, _, order, ?_, ?_, _, rfl, ?_,
    validContracts_snapshot policy, ?_, ?_, _, rfl, ?_, ?_, ?_, trivial⟩
  · rw [sent_variants, mode]
    exact validVariants_snapshot policy
  · rw [sent_elapsed]
    rfl
  · simp [available, Gateway.Challenges.snapshot]
  · rw [mode]
    exact validActive_sent valid supported
  · rw [mode]
    exact validResult_sent valid supported
  · rw [mode, Nat.not_lt]
    simpa [Gateway.Challenges.snapshot] using records_length valid supported
  · rw [mode]
    exact validRecords_sent valid supported
  · rw [sent_mastery]
    cases present : mastery with
    | none => rfl
    | some archive =>
        have shows : MasteryArchive.ShowsState state (sent character state policy (some archive)) :=
          sent_shows
        exact MasteryArchive.valid_masterySnapshot shows valid (fits archive present)

/-- What the gateway answers is the sent board, with the archive that
persistence derived. -/
theorem board_ok {facts : Entry → Facts} {entries : List Entry} {query : BoardQuery}
    {snapshot : Protocol.ChallengeSnapshot} (history : History entries state)
    (built : Gateway.Challenges.board facts entries state query = .ok snapshot) :
    ∃ mastery : Option Archive, (∀ archive ∈ mastery, Persistence.ArchiveFits state archive) ∧
      state.supportsPolicy query.policy = true ∧
      snapshot.serialize = sent query.characterId state query.policy mastery := by
  obtain ⟨archive, derived, fits⟩ := Persistence.archive_fits facts history
  unfold Gateway.Challenges.board at built
  rw [guard_bind_eq_ok] at built
  obtain ⟨-, built⟩ := built
  cases capable : query.masteryCapable with
  | false =>
      rw [capable] at built
      simp only [Bool.false_eq_true, if_false, bind_eq_ok, exists_unit, rejectIf_eq_ok, pure_eq_ok,
        Except.ok.injEq, exists_eq_left'] at built
      obtain ⟨supported, rfl⟩ := built
      refine ⟨none, ?_, by simpa using supported, rfl⟩
      intro archive impossible
      cases impossible
  | true =>
      rw [capable, if_pos rfl, derived] at built
      simp only [Except.map, bind_eq_ok, exists_unit, rejectIf_eq_ok, pure_eq_ok, Except.ok.injEq,
        exists_eq_left'] at built
      obtain ⟨supported, rfl⟩ := built
      refine ⟨some archive, ?_, by simpa using supported, rfl⟩
      intro other present
      cases present
      exact fits

/-- An owned character whose save the policy can read gets a board. -/
theorem board_built (facts : Entry → Facts) {entries : List Entry} {query : BoardQuery}
    (history : History entries state) (current : query.currentContent = true)
    (owned : query.characterId ∈ query.ownedCharacters)
    (supported : state.supportsPolicy query.policy = true) :
    ∃ snapshot, Gateway.Challenges.board facts entries state query = .ok snapshot := by
  obtain ⟨archive, derived, -⟩ := Persistence.archive_fits facts history
  have asked : Gateway.Challenges.validateQuery query = .ok () := by
    unfold Gateway.Challenges.validateQuery
    rw [rejectIf_eq_ok]
    simp [current, owned]
  have readable : rejectIf (state.supportsPolicy query.policy = false)
      "challenge save requires expanded challenge content" = .ok () := by
    rw [rejectIf_eq_ok]
    simp [supported]
  unfold Gateway.Challenges.board
  rw [asked, derived]
  cases query.masteryCapable with
  | false =>
      change ∃ snapshot, (rejectIf _ _ >>= fun _ => pure _) = Except.ok snapshot
      rw [readable]
      exact ⟨_, rfl⟩
  | true =>
      change ∃ snapshot, (rejectIf _ _ >>= fun _ => pure _) = Except.ok snapshot
      rw [readable]
      exact ⟨_, rfl⟩

/-- A board of the same character that was sent for an earlier point of its
journal, under any policy and with or without an archive. -/
def EarlierBoard (account : String) (entries : List Entry) (message : Variant) : Prop :=
  ∃ facts earlier later state query snapshot, entries = earlier ++ later ∧
    History earlier state ∧ query.characterId = Persistence.characterId account ∧
    Gateway.Challenges.board facts earlier state query = .ok snapshot ∧
    message = snapshot.serialize

/-- Every reachable save yields a board, and the client keeps it: over no board
or over any board that an earlier save of the account yielded, whatever the
character it has selected so far, if any, is called. -/
theorem board_kept (account : String) (facts : Entry → Facts) {entries : List Entry}
    {state : ChallengeState} (query : BoardQuery) (history : History entries state)
    (own : query.characterId = Persistence.characterId account)
    (owned : query.characterId ∈ query.ownedCharacters) (current : query.currentContent = true)
    (supported : state.supportsPolicy query.policy = true) :
    ∃ snapshot, Gateway.Challenges.board facts entries state query = .ok snapshot ∧
      ∀ shown selected, (∀ previous ∈ shown, EarlierBoard account entries previous) →
        (selected = "" ∨ selected = query.characterId) →
        ChallengeState.apply shown snapshot.serialize selected = .ok snapshot.serialize := by
  obtain ⟨snapshot, built⟩ := board_built facts history current owned supported
  refine ⟨snapshot, built, ?_⟩
  intro shown selected earlier chosen
  obtain ⟨mastery, fits, -, sends⟩ := board_ok history built
  have named : query.characterId ≠ "" := by
    rw [own]
    intro empty
    have length := congrArg String.length empty
    simp [Persistence.characterId] at length
  rw [sends]
  refine apply_sent history.valid supported named fits chosen ?_ ?_
  · intro previous present
    obtain ⟨_, _, _, _, _, _, -, past, same, builtPast, rfl⟩ := earlier previous present
    obtain ⟨_, -, -, sendsPast⟩ := board_ok past builtPast
    rw [sendsPast, own, ← same]
    rfl
  · intro previous present
    obtain ⟨_, past, later, before, _, _, split, pastHistory, -, builtPast, rfl⟩ :=
      earlier previous present
    obtain ⟨_, -, -, sendsPast⟩ := board_ok pastHistory builtPast
    refine ⟨before.revision, ?_, ?_⟩
    · rw [pastHistory.revision_eq, history.revision_eq, split, List.length_append]
      exact Nat.le_add_right _ _
    · rw [sendsPast]
      rfl

/-- A query of the newest client about its own character. -/
def plainQuery : BoardQuery :=
  { account := "account-1", ownedCharacters := [Persistence.characterId "account-1"]
    currentContent := true, policy := .modifier, masteryCapable := true
    characterId := Persistence.characterId "account-1" }

/-- The board of the cleared contract, with its archive, as a first board. -/
theorem board_kept_cleared :
    ∃ snapshot, Gateway.Challenges.board (fun _ => Facts.default) clearedEntries clearedSave
        plainQuery = .ok snapshot ∧
      ChallengeState.apply none snapshot.serialize "" = .ok snapshot.serialize := by
  obtain ⟨snapshot, built, kept⟩ := board_kept "account-1" (fun _ => Facts.default) plainQuery
    cleared_history rfl (by decide) rfl (by decide)
  refine ⟨snapshot, built, kept none "" ?_ (Or.inl rfl)⟩
  intro previous impossible
  cases impossible

end Board

end ChallengeBoard
end Agreement
end Revenant
