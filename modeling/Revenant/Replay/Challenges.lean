import Revenant.Challenges.Wellformed
import Revenant.Replay.Failure

namespace Revenant
namespace Replay

open Library Challenges

/-!
# The challenge journal

A checkpoint carries one transition with the saves around it.  The journal
reader repeats the transition of every checkpoint and follows the saves from
the empty one; `reconstruct_iff` says that this reads exactly the chains of
accepted commands, with distinct operations and well-formed references.
-/

structure ChallengeReplayPayload where
  schemaVersion : Nat
  policyRevision : String
  characterId : String
  operationId : String
  before : ChallengeState
  command : Command
  after : ChallengeState
  firstCompletion : Option ContractId
  proofEventId : Option Int
  deriving DecidableEq

namespace ChallengeReplayPayload

/-- Only an abandoned or interrupted run ends without a proof. -/
def requiresProof (payload : ChallengeReplayPayload) : Bool :=
  match payload.command with
  | .endRun _ .abandoned | .endRun _ .interrupted => false
  | _ => true

/-- ASCII letters, digits and dashes only. -/
def plainOperation (payload : ChallengeReplayPayload) : Bool :=
  payload.operationId.toList.all (fun byte => byte.isAlphanum || byte == '-')

/-- The identities and the shape of the proof reference. -/
structure WellFormed (payload : ChallengeReplayPayload) : Prop where
  schema : payload.schemaVersion = 1
  character : payload.characterId ≠ "" ∧ payload.characterId.utf8ByteSize ≤ 256
  operation : payload.operationId ≠ "" ∧ payload.operationId.utf8ByteSize ≤ 96 ∧
    payload.plainOperation = true
  proof : payload.requiresProof = true → ∃ id ∈ payload.proofEventId, 0 < id
  noProof : payload.requiresProof = false → payload.proofEventId = none

/-- The policy text names a published policy under which `apply` answers with
the recorded save and completion. -/
def Produced (payload : ChallengeReplayPayload) : Prop :=
  ∃ policy, Policy.named payload.policyRevision = some policy ∧
    apply policy payload.before payload.before.revision payload.command =
      .ok ⟨payload.after, payload.firstCompletion⟩

def validate (payload : ChallengeReplayPayload) : Except ReplayError Unit := do
  rejectIf (payload.schemaVersion ≠ 1 ∨
    payload.characterId = "" ∨ payload.characterId.utf8ByteSize > 256 ∨
    payload.operationId = "" ∨ payload.operationId.utf8ByteSize > 96 ∨
    payload.plainOperation = false ∨
    (payload.requiresProof = true ∧ ∀ id ∈ payload.proofEventId, id ≤ 0) ∨
    (payload.requiresProof = false ∧ payload.proofEventId.isSome))
    (invalidModule "invalid challenge identity or proof reference")
  let expected ← transition payload
  rejectIf (expected.state ≠ payload.after ∨ expected.firstCompletion ≠ payload.firstCompletion)
    (invalidModule "challenge journal differs from its deterministic transition")
where
  transition (payload : ChallengeReplayPayload) : Except ReplayError Transition :=
    match applyNamed payload.policyRevision payload.before payload.before.revision payload.command with
    | .ok transition => .ok transition
    | .error failure => .error (invalidModule failure.text)

theorem validate_iff {payload : ChallengeReplayPayload} :
    payload.validate = .ok () ↔ payload.WellFormed ∧ payload.Produced := by
  unfold validate
  rw [guard_bind_eq_ok, rejectIf_eq_ok]
  apply and_congr
  · constructor
    · intro passed
      simp only [not_or, not_and, not_not, not_forall, Nat.not_lt, Int.not_le, exists_prop,
        Bool.not_eq_true, Bool.not_eq_false, Option.isSome_eq_false_iff, Option.isNone_iff_eq_none] at passed
      obtain ⟨schema, named, short, identified, bounded, plain, proof, noProof⟩ := passed
      exact ⟨schema, ⟨named, short⟩, ⟨identified, bounded, plain⟩, proof, noProof⟩
    · intro formed
      simp only [not_or, not_and, not_not, not_forall, Nat.not_lt, Int.not_le, exists_prop,
        Bool.not_eq_true, Bool.not_eq_false, Option.isSome_eq_false_iff, Option.isNone_iff_eq_none]
      exact ⟨formed.schema, formed.character.1, formed.character.2, formed.operation.1,
        formed.operation.2.1, formed.operation.2.2, formed.proof, formed.noProof⟩
  · have repeated : ∀ transition, validate.transition payload = .ok transition ↔
        ∃ policy, Policy.named payload.policyRevision = some policy ∧
          apply policy payload.before payload.before.revision payload.command = .ok transition := by
      intro transition
      rw [← applyNamed_iff]
      unfold validate.transition
      split
      · next found => simp only [found, Except.ok.injEq]
      · next found => simp only [found, reduceCtorEq]
    simp only [bind_eq_ok, rejectIf_eq_ok, not_or, not_not, repeated]
    constructor
    · rintro ⟨expected, ⟨policy, named, applied⟩, state, first⟩
      refine ⟨policy, named, ?_⟩
      rw [applied, ← state, ← first]
    · rintro ⟨policy, named, applied⟩
      exact ⟨_, ⟨policy, named, applied⟩, rfl, rfl⟩

end ChallengeReplayPayload

/-- The checkpoints from a save on, with the operations read so far. -/
def extendJournal (characterId : String) :
    ChallengeState → List String → List ChallengeReplayPayload → Except ReplayError ChallengeState
  | state, _, [] => .ok state
  | state, operations, entry :: rest => do
      entry.validate
      rejectIf (entry.characterId ≠ characterId ∨ entry.before ≠ state ∨
        entry.operationId ∈ operations)
        (invalidModule "challenge journal is not a unique character transition chain")
      extendJournal characterId entry.after (entry.operationId :: operations) rest

def reconstructChallengeJournal (characterId : String) (entries : List ChallengeReplayPayload) :
    Except ReplayError ChallengeState := do
  rejectIf (characterId = "" ∨ characterId.utf8ByteSize > 256)
    (invalidModule "invalid challenge journal character")
  extendJournal characterId .default [] entries

/-- A chain of accepted commands of one character, from the empty save. -/
structure Journal (characterId : String) (entries : List ChallengeReplayPayload)
    (state : ChallengeState) : Prop where
  chain : Chain ChallengeReplayPayload.before ChallengeReplayPayload.after .default entries state
  produced : ∀ entry ∈ entries, entry.Produced
  own : ∀ entry ∈ entries, entry.characterId = characterId
  distinct : (entries.map (·.operationId)).Nodup

theorem extendJournal_iff {characterId : String} {start state : ChallengeState}
    {operations : List String} {entries : List ChallengeReplayPayload} :
    extendJournal characterId start operations entries = .ok state ↔
      (∀ entry ∈ entries, entry.WellFormed) ∧ (∀ entry ∈ entries, entry.Produced) ∧
      (∀ entry ∈ entries, entry.characterId = characterId) ∧
      Chain ChallengeReplayPayload.before ChallengeReplayPayload.after start entries state ∧
      (entries.map (·.operationId)).Nodup ∧ ∀ entry ∈ entries, entry.operationId ∉ operations := by
  induction entries generalizing start operations with
  | nil =>
      simp only [extendJournal, Except.ok.injEq, List.not_mem_nil, false_imp_iff, implies_true,
        true_and, List.map_nil, List.nodup_nil, and_true, Chain.nil_iff]
  | cons entry rest inductionHypothesis =>
      simp only [extendJournal, guard_bind_eq_ok, rejectIf_eq_ok, inductionHypothesis,
        ChallengeReplayPayload.validate_iff, Chain.cons_iff, List.map_cons, List.nodup_cons,
        List.mem_map, List.mem_cons, forall_eq_or_imp, not_or, not_not, not_exists, not_and]
      constructor
      · rintro ⟨⟨formed, produced⟩, ⟨own, before, fresh⟩, formedRest, producedRest, ownRest, chain,
          distinct, apart⟩
        refine ⟨⟨formed, formedRest⟩, ⟨produced, producedRest⟩, ⟨own, ownRest⟩, ⟨before, chain⟩,
          ⟨?_, distinct⟩, fresh, ?_⟩
        · intro other member same
          exact (apart other member).1 same
        · intro other member
          exact (apart other member).2
      · rintro ⟨⟨formed, formedRest⟩, ⟨produced, producedRest⟩, ⟨own, ownRest⟩, ⟨before, chain⟩,
          ⟨apart, distinct⟩, fresh, freshRest⟩
        refine ⟨⟨formed, produced⟩, ⟨own, before, fresh⟩, formedRest, producedRest, ownRest, chain,
          distinct, ?_⟩
        intro other member
        exact ⟨apart other member, freshRest other member⟩

/-- What the journal reader accepts. -/
theorem reconstruct_iff {characterId : String} {entries : List ChallengeReplayPayload}
    {state : ChallengeState} :
    reconstructChallengeJournal characterId entries = .ok state ↔
      (characterId ≠ "" ∧ characterId.utf8ByteSize ≤ 256) ∧
      (∀ entry ∈ entries, entry.WellFormed) ∧ Journal characterId entries state := by
  unfold reconstructChallengeJournal
  rw [guard_bind_eq_ok, rejectIf_eq_ok, extendJournal_iff, not_or, Nat.not_lt]
  constructor
  · rintro ⟨character, formed, produced, own, chain, distinct, -⟩
    exact ⟨character, formed, chain, produced, own, distinct⟩
  · rintro ⟨character, formed, journal⟩
    refine ⟨character, formed, journal.produced, journal.own, journal.chain, journal.distinct, ?_⟩
    intro entry _
    exact List.not_mem_nil

end Replay
end Revenant
