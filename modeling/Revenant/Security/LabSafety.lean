import Revenant.Security.SessionSafety

namespace Revenant
namespace Security

open Library

/-!
# The safety of the laboratory

The sessions, the lobby and the failed proofs of every run.  A principal's
queue trails its failures since the last proof that was accepted, so it tells
how many of them a window holds.

Refused operations are part of a run: they answer with a disposition and may
still purge what has run out.  Injectivity of the digest stands for its
resistance to collisions; nothing else is asked of it.
-/

variable {Digest : Type}

/-! ## The lobby -/

def Redeems (entry : Entry Digest) : Prop :=
  entry.answer.disposition = some .inviteRedeemed

instance (entry : Entry Digest) : Decidable (Redeems entry) := by
  unfold Redeems
  infer_instance

def redemptions (entries : List (Entry Digest)) : List (Entry Digest) :=
  entries.filter (fun entry => Redeems entry)

/-- The invite counts its redemptions, and the lobby has two seats. -/
structure LobbyKept (entries : List (Entry Digest)) (lab : IdentitySessionLab Digest) : Prop where
  unopened : lab.lobby = none → redemptions entries = []
  redeemed : ∀ lobby, lab.lobby = some lobby →
    (redemptions entries).length = if lobby.invite.redeemedBy.isSome then 1 else 0
  members : ∀ lobby, lab.lobby = some lobby → lobby.members.length ≤ 2

section Lobby

open IdentitySessionLab

variable {entries : List (Entry Digest)} {lab next : IdentitySessionLab Digest}
  {entry : Entry Digest}

theorem redemptions_snoc : redemptions (entries ++ [entry]) =
    redemptions entries ++ if Redeems entry then [entry] else [] := by
  unfold redemptions
  rw [List.filter_append]
  by_cases redeems : Redeems entry <;> simp [redeems]

theorem LobbyKept.quiet (kept : LobbyKept entries lab) (same : next.lobby = lab.lobby)
    (other : ¬ Redeems entry) : LobbyKept (entries ++ [entry]) next := by
  have counted : redemptions (entries ++ [entry]) = redemptions entries := by
    rw [redemptions_snoc, if_neg other, List.append_nil]
  refine ⟨?_, ?_, ?_⟩
  · rw [counted, same]
    exact kept.unopened
  · rw [counted, same]
    exact kept.redeemed
  · rw [same]
    exact kept.members

/-- A seated member is marked, a new one added. -/
theorem length_seat (members : List (String × Bool)) (accountId : String) (present : Bool) :
    (seat members accountId present).length ≤ members.length + 1 ∧
      ((∃ member ∈ members, member.1 = accountId) →
        (seat members accountId present).length = members.length) := by
  unfold seat
  split
  · next seated =>
      rw [List.length_map]
      exact ⟨Nat.le_succ _, fun _ => rfl⟩
  · next stranger =>
      rw [List.length_append, List.length_singleton]
      exact ⟨le_refl _, fun seated => absurd seated stranger⟩

variable [DecidableEq Digest] {digest : List UInt8 → Digest}

theorem LobbyKept.create (kept : LobbyKept entries lab) {ownerId : String} {invite : Secret}
    {nowMs : Nat} :
    LobbyKept (entries ++ [entryOf digest lab (.createLobby ownerId invite nowMs)])
      (perform digest lab (.createLobby ownerId invite nowMs)).lab := by
  simp only [entryOf, perform, createLobby]
  split
  · exact kept.quiet rfl (by simp [Redeems, IdentitySessionLab.refuse])
  · next open_ =>
      have unopened : lab.lobby = none := by
        rw [not_or, Option.not_isSome_iff_eq_none] at open_
        exact open_.1
      refine ⟨(fun impossible => by cases impossible), ?_, ?_⟩
      · intro lobby created
        cases created
        rw [redemptions_snoc, kept.unopened unopened, if_neg (by simp [Redeems, mutate])]
        rfl
      · intro lobby created
        cases created
        exact Nat.le_succ 1

theorem LobbyKept.redeem (kept : LobbyKept entries lab) {peerId : String} {invite : Secret}
    {nowMs : Nat} :
    LobbyKept (entries ++ [entryOf digest lab (.redeemInvite peerId invite nowMs)])
      (perform digest lab (.redeemInvite peerId invite nowMs)).lab := by
  have refused : LobbyKept (entries ++ [{ before := lab, answer := lab.refuse .inviteRejected
                                          input := .redeemInvite peerId invite nowMs }]) lab :=
    kept.quiet rfl (by simp [Redeems, IdentitySessionLab.refuse])
  simp only [entryOf, perform, redeemInvite]
  split
  · exact refused
  · cases opened : lab.lobby with
    | none => exact refused
    | some lobby =>
        simp only
        split
        · exact refused
        · next granted =>
            simp only [not_or, Bool.not_eq_true, Option.isSome_eq_false_iff, not_le] at granted
            obtain ⟨-, unredeemed, -, room⟩ := granted
            refine ⟨(fun impossible => by cases impossible), ?_, ?_⟩
            · intro next written
              cases written
              have fresh := kept.redeemed lobby opened
              rw [Option.isNone_iff_eq_none.mp unredeemed] at fresh
              rw [redemptions_snoc, if_pos, List.length_append, fresh]
              · rfl
              · rfl
            · intro next written
              cases written
              have := (length_seat lobby.members peerId true).1
              change (seat lobby.members peerId true).length ≤ 2
              omega

theorem LobbyKept.presence (kept : LobbyKept entries lab) {accountId : String} {present : Bool} :
    LobbyKept (entries ++ [entryOf digest lab (.setPresence accountId present)])
      (perform digest lab (.setPresence accountId present)).lab := by
  simp only [entryOf, perform, setPresence]
  cases opened : lab.lobby with
  | none => exact kept.quiet rfl (by simp [Redeems, IdentitySessionLab.refuse])
  | some lobby =>
      simp only
      split
      · next seated =>
          have counted : ∀ entry : Entry Digest, ¬ Redeems entry →
              redemptions (entries ++ [entry]) = redemptions entries := by
            intro entry other
            rw [redemptions_snoc, if_neg other, List.append_nil]
          refine ⟨(fun impossible => by cases impossible), ?_, ?_⟩
          · intro next written
            cases written
            rw [counted _ (by simp [Redeems, mutate])]
            exact kept.redeemed lobby opened
          · intro next written
            cases written
            change (seat lobby.members accountId present).length ≤ 2
            rw [(length_seat lobby.members accountId present).2 seated]
            exact kept.members lobby opened
      · exact kept.quiet rfl (by simp [Redeems, IdentitySessionLab.refuse])

theorem LobbyKept.step (kept : LobbyKept entries lab) (operation : Operation) :
    LobbyKept (entries ++ [entryOf digest lab operation]) (perform digest lab operation).lab := by
  cases operation with
  | enroll username credential recovery =>
      refine kept.quiet ?_ ?_
      · simp only [perform, enroll]
        split
        · rfl
        · split <;> split <;> rfl
      · simp only [entryOf, perform, enroll]
        split
        · simp [Redeems, IdentitySessionLab.refuse]
        · split <;> split <;> simp [Redeems, IdentitySessionLab.refuse, mutate]
  | authenticate username credential lobbyId nowMs secret =>
      have effect := @authenticate_effect _ digest _ lab username lobbyId credential secret nowMs
      simp only [entryOf, perform]
      generalize lab.authenticate digest username credential lobbyId nowMs secret = reply at effect
      cases effect <;> exact kept.quiet rfl (by simp [Redeems, IdentitySessionLab.refuse])
  | useSession used bearer accountId lobbyId nowMs =>
      have effect := @useSession_effect _ digest _ lab used accountId lobbyId bearer nowMs
      simp only [entryOf, perform]
      generalize lab.useSession digest used bearer accountId lobbyId nowMs = reply at effect
      cases effect with
      | rejected => exact kept.quiet rfl (by simp [Redeems, IdentitySessionLab.refuse])
      | expired stored expiry =>
          rcases expiry with rfl | rfl <;> exact kept.quiet rfl (by simp [Redeems, mutate])
      | valid => exact kept.quiet rfl (by simp [Redeems, mutate])
  | logout used bearer =>
      simp only [entryOf, perform, logout]
      split
      · exact kept.quiet rfl (by simp [Redeems, IdentitySessionLab.refuse])
      · split_ifs
        · exact kept.quiet rfl (by simp [Redeems, IdentitySessionLab.refuse])
        · exact kept.quiet rfl (by simp [Redeems, mutate])
  | rotateCredential username current replacement =>
      simp only [entryOf, perform, rotateCredential]
      split
      · exact kept.quiet rfl (by simp [Redeems, IdentitySessionLab.refuse])
      · split
        · exact kept.quiet rfl (by simp [Redeems, IdentitySessionLab.refuse])
        · split_ifs
          · exact kept.quiet rfl (by simp [Redeems, IdentitySessionLab.refuse])
          · exact kept.quiet rfl (by simp [Redeems, mutate])
  | recover username recovery credential replacement =>
      simp only [entryOf, perform, recover]
      split
      · exact kept.quiet rfl (by simp [Redeems, IdentitySessionLab.refuse])
      · split
        · exact kept.quiet rfl (by simp [Redeems, IdentitySessionLab.refuse])
        · split_ifs
          · exact kept.quiet rfl (by simp [Redeems, IdentitySessionLab.refuse])
          · exact kept.quiet rfl (by simp [Redeems, mutate])
  | revokeAccountSessions accountId => exact kept.quiet rfl (by simp [Redeems, entryOf, perform])
  | createLobby ownerId invite nowMs => exact kept.create
  | redeemInvite peerId invite nowMs => exact kept.redeem
  | setPresence accountId present => exact kept.presence

end Lobby

/-! ## Failed proofs -/

section Proofs

open IdentitySessionLab

/-- The principal an attempt is counted under. -/
def principalOf (entry : Entry Digest) : Option String :=
  match entry.input with
  | .authenticate username _ _ _ _ =>
      (canonicalAccountId username).map entry.before.failureKey
  | _ => none

/-- The time of an attempt of a principal with one of the given answers. -/
def attempt (answers : List Disposition) (principal : String) (entry : Entry Digest) :
    Option Nat :=
  if principalOf entry = some principal ∧ ∃ answer ∈ answers,
      entry.answer.disposition = some answer then entry.input.nowMs
  else none

/-- The proofs of a principal that were evaluated and failed. -/
def failedProofs (principal : String) (entries : List (Entry Digest)) : List Nat :=
  entries.filterMap (attempt [.authenticationFailed] principal)

/-- The proofs of an admitted principal that were accepted: each gave a session,
unless the session identifiers had run out. -/
def acceptedProofs (principal : String) (entries : List (Entry Digest)) : List Nat :=
  entries.filterMap (attempt [.authenticated, .conflict] principal)

def times (entries : List (Entry Digest)) : List Nat :=
  entries.filterMap (fun entry => entry.input.nowMs)

/-- The times of a window. -/
def inWindow (start : Nat) (moments : List Nat) : List Nat :=
  moments.filter (fun time => start ≤ time ∧ time < start + rateWindowMs)

/-- A principal's queue, as the history tells it. -/
structure Watched (principal : String) (entries : List (Entry Digest)) (queue : List Nat) :
    Prop where
  /-- The queue trails the failures since the last accepted proof. -/
  trails : ∃ old since horizon, failedProofs principal entries = old ++ since ∧
    (∀ time ∈ old, ∃ accepted ∈ acceptedProofs principal entries, time ≤ accepted) ∧
    Trails rateWindowMs horizon queue since ∧
    ∀ now, (∀ time ∈ times entries, time ≤ now) → horizon ≤ now
  few : ∀ start, inWindow start (acceptedProofs principal entries) = [] →
    (inWindow start (failedProofs principal entries)).length ≤ rateFailureLimit

variable {principal : String} {entries : List (Entry Digest)} {queue : List Nat}
  {entry : Entry Digest} {nowMs : Nat}

theorem failedProofs_snoc : failedProofs principal (entries ++ [entry]) =
    failedProofs principal entries ++
      (attempt [.authenticationFailed] principal entry).toList :=
  filterMap_snoc _ _ _

theorem acceptedProofs_snoc : acceptedProofs principal (entries ++ [entry]) =
    acceptedProofs principal entries ++
      (attempt [.authenticated, .conflict] principal entry).toList :=
  filterMap_snoc _ _ _

theorem times_snoc : times (entries ++ [entry]) = times entries ++ entry.input.nowMs.toList :=
  filterMap_snoc _ _ _

/-- Attempts happen at the times of the history. -/
theorem mem_times_of_attempt {answers : List Disposition} {time : Nat}
    (member : time ∈ entries.filterMap (attempt answers principal)) : time ∈ times entries := by
  obtain ⟨entry, listed, found⟩ := List.mem_filterMap.mp member
  unfold attempt at found
  split at found
  · exact List.mem_filterMap.mpr ⟨entry, listed, found⟩
  · cases found

theorem attempts_sublist (answers : List Disposition) :
    (entries.filterMap (attempt answers principal)).Sublist (times entries) := by
  induction entries with
  | nil => exact List.Sublist.refl _
  | cons entry rest inductionHypothesis =>
      unfold times
      rw [List.filterMap_cons, List.filterMap_cons]
      unfold attempt
      split_ifs with counted
      · cases entry.input.nowMs with
        | none => exact inductionHypothesis
        | some nowMs => exact inductionHypothesis.cons_cons nowMs
      · cases entry.input.nowMs with
        | none => exact inductionHypothesis
        | some nowMs => exact inductionHypothesis.cons nowMs

theorem inWindow_append (start : Nat) (first second : List Nat) :
    inWindow start (first ++ second) = inWindow start first ++ inWindow start second :=
  List.filter_append ..

theorem inWindow_eq_nil {start : Nat} {moments : List Nat} :
    inWindow start moments = [] ↔
      ∀ time ∈ moments, ¬ (start ≤ time ∧ time < start + rateWindowMs) := by
  simp only [inWindow, List.filter_eq_nil_iff, decide_eq_true_eq]

theorem watched_nil : Watched principal ([] : List (Entry Digest)) [] := by
  refine ⟨⟨[], [], 0, rfl, ?_, trails_nil, fun now _ => Nat.zero_le now⟩, fun start _ => Nat.zero_le _⟩
  intro time impossible
  exact absurd impossible List.not_mem_nil

/-- An entry that is no attempt of the principal. -/
theorem Watched.aside (watched : Watched principal entries queue)
    (other : principalOf entry ≠ some principal) : Watched principal (entries ++ [entry]) queue := by
  have failed : failedProofs principal (entries ++ [entry]) = failedProofs principal entries := by
    rw [failedProofs_snoc, attempt, if_neg (fun counted => other counted.1), Option.toList_none,
      List.append_nil]
  have accepted : acceptedProofs principal (entries ++ [entry]) =
      acceptedProofs principal entries := by
    rw [acceptedProofs_snoc, attempt, if_neg (fun counted => other counted.1), Option.toList_none,
      List.append_nil]
  obtain ⟨old, since, horizon, split, before, trails, past⟩ := watched.trails
  refine ⟨⟨old, since, horizon, failed.trans split, accepted ▸ before, trails, ?_⟩, ?_⟩
  · intro now later
    rw [times_snoc] at later
    exact past now fun time member => later time (List.mem_append_left _ member)
  · rw [failed, accepted]
    exact watched.few

section Attempts

theorem since_ordered (ordered : (times entries).Pairwise (· ≤ ·)) {old since : List Nat}
    (split : failedProofs principal entries = old ++ since) : since.Pairwise (· ≤ ·) := by
  have inside : since.Sublist (failedProofs principal entries) :=
    split ▸ List.sublist_append_right old since
  exact ordered.sublist (inside.trans (attempts_sublist [.authenticationFailed]))

/-- What is retained is what still counts. -/
theorem retained_eq_recent (watched : Watched principal entries queue)
    (ordered : (times entries).Pairwise (· ≤ ·)) :
    retained nowMs queue = recent rateWindowMs nowMs queue := by
  obtain ⟨old, since, horizon, split, -, trails, -⟩ := watched.trails
  exact dropWhile_eq_recent (trails.ordered (since_ordered ordered split)) (by decide)

/-- An attempt that is neither failed nor accepted only drops old failures. -/
theorem Watched.pruned (watched : Watched principal entries queue)
    (ordered : (times entries).Pairwise (· ≤ ·)) (timed : entry.input.nowMs = some nowMs)
    (failing : entry.answer.disposition ≠ some .authenticationFailed)
    (accepting : ∀ answer ∈ [Disposition.authenticated, .conflict],
      entry.answer.disposition ≠ some answer) :
    Watched principal (entries ++ [entry]) (retained nowMs queue) := by
  have failed : failedProofs principal (entries ++ [entry]) = failedProofs principal entries := by
    rw [failedProofs_snoc, attempt, if_neg, Option.toList_none, List.append_nil]
    rintro ⟨-, answer, member, same⟩
    exact failing (List.mem_singleton.mp member ▸ same)
  have accepted : acceptedProofs principal (entries ++ [entry]) =
      acceptedProofs principal entries := by
    rw [acceptedProofs_snoc, attempt, if_neg, Option.toList_none, List.append_nil]
    rintro ⟨-, answer, member, same⟩
    exact accepting answer member same
  rw [retained_eq_recent watched ordered]
  obtain ⟨old, since, horizon, split, before, trails, past⟩ := watched.trails
  have forgotten := trails.forget (since_ordered ordered split) (by decide) nowMs
  refine ⟨⟨old, since, _, failed.trans split, accepted ▸ before, forgotten, ?_⟩, ?_⟩
  · intro now after
    rw [times_snoc, timed] at after
    refine max_le (past now fun time member => after time (List.mem_append_left _ member)) ?_
    exact after nowMs (by simp)
  · rw [failed, accepted]
    exact watched.few

/-- A failed proof joins the retained ones. -/
theorem Watched.failed (watched : Watched principal entries queue)
    (ordered : (times entries).Pairwise (· ≤ ·)) (later : ∀ time ∈ times entries, time ≤ nowMs)
    (timed : entry.input.nowMs = some nowMs) (mine : principalOf entry = some principal)
    (failing : entry.answer.disposition = some .authenticationFailed)
    (room : (retained nowMs queue).length < rateFailureLimit) :
    Watched principal (entries ++ [entry]) (retained nowMs queue ++ [nowMs]) := by
  have failed : failedProofs principal (entries ++ [entry]) =
      failedProofs principal entries ++ [nowMs] := by
    rw [failedProofs_snoc, attempt, if_pos ⟨mine, _, List.mem_singleton_self _, failing⟩, timed,
      Option.toList_some]
  have accepted : acceptedProofs principal (entries ++ [entry]) =
      acceptedProofs principal entries := by
    rw [acceptedProofs_snoc, attempt, if_neg, Option.toList_none, List.append_nil]
    rintro ⟨-, answer, member, same⟩
    rw [failing] at same
    simp only [List.mem_cons, List.not_mem_nil, or_false] at member
    rcases member with rfl | rfl <;> cases same
  rw [retained_eq_recent watched ordered] at room ⊢
  obtain ⟨old, since, horizon, split, before, trails, past⟩ := watched.trails
  have forgotten := trails.forget (since_ordered ordered split) (by decide) nowMs
  refine ⟨⟨old, since ++ [nowMs], _, ?_, accepted ▸ before, forgotten.snoc nowMs, ?_⟩, ?_⟩
  · rw [failed, split, List.append_assoc]
  · intro now after
    rw [times_snoc, timed] at after
    refine max_le (past now fun time member => after time (List.mem_append_left _ member)) ?_
    exact after nowMs (by simp)
  · intro start calm
    rw [accepted] at calm
    rw [failed, inWindow_append, List.length_append]
    by_cases inside : start ≤ nowMs ∧ nowMs < start + rateWindowMs
    · -- in a window without accepted proof every old failure is before the window
      have gone : inWindow start old = [] := by
        rw [inWindow_eq_nil] at calm ⊢
        intro time member within
        obtain ⟨cleared, listed, earlier⟩ := before time member
        have reached := later cleared (mem_times_of_attempt listed)
        exact calm cleared listed (by omega)
      have counted : (inWindow start since).length ≤ (recent rateWindowMs nowMs since).length := by
        refine (List.monotone_filter_right since ?_).length_le
        intro time member
        rw [decide_eq_true_eq] at member ⊢
        omega
      have same : recent rateWindowMs nowMs queue = recent rateWindowMs nowMs since :=
        trails.recent_eq (past nowMs later)
      have single : (inWindow start [nowMs]).length ≤ 1 := List.length_filter_le _ _
      rw [split, inWindow_append, gone, List.nil_append]
      rw [same] at room
      omega
    · have none : inWindow start [nowMs] = [] := by
        rw [inWindow_eq_nil]
        intro time member
        rw [List.mem_singleton] at member
        exact member ▸ inside
      rw [none]
      exact watched.few start calm

/-- An accepted proof empties the queue. -/
theorem Watched.accepted (watched : Watched principal entries queue)
    (later : ∀ time ∈ times entries, time ≤ nowMs)
    (timed : entry.input.nowMs = some nowMs) (mine : principalOf entry = some principal)
    (accepting : ∃ answer ∈ [Disposition.authenticated, .conflict],
      entry.answer.disposition = some answer) :
    Watched principal (entries ++ [entry]) [] := by
  have failed : failedProofs principal (entries ++ [entry]) = failedProofs principal entries := by
    rw [failedProofs_snoc, attempt, if_neg, Option.toList_none, List.append_nil]
    rintro ⟨-, answer, member, same⟩
    obtain ⟨other, listed, answered⟩ := accepting
    rw [List.mem_singleton] at member
    subst member
    simp only [List.mem_cons, List.not_mem_nil, or_false] at listed
    rcases listed with rfl | rfl <;> rw [answered] at same <;> cases same
  have accepted : acceptedProofs principal (entries ++ [entry]) =
      acceptedProofs principal entries ++ [nowMs] := by
    rw [acceptedProofs_snoc, attempt, if_pos ⟨mine, accepting⟩, timed, Option.toList_some]
  refine ⟨⟨failedProofs principal entries, [], 0, ?_, ?_, trails_nil, fun _ _ => Nat.zero_le _⟩, ?_⟩
  · rw [failed, List.append_nil]
  · intro time member
    refine ⟨nowMs, ?_, later time (mem_times_of_attempt member)⟩
    rw [accepted]
    simp
  · intro start calm
    rw [accepted, inWindow_append] at calm
    rw [failed]
    exact watched.few start (List.append_eq_nil_iff.mp calm).1

end Attempts

section Steps

variable {lab : IdentitySessionLab Digest}

theorem principalOf_authenticate {username : String} {credential : List UInt8} {lobbyId : String}
    {secret : Secret} {reply : Reply Digest} :
    principalOf { before := lab, answer := reply
                  input := .authenticate username credential lobbyId nowMs secret } =
      (canonicalAccountId username).map lab.failureKey := rfl

/-- An attempt touches the queue of its own principal. -/
theorem watched_withFailures {username : String} {credential : List UInt8} {lobbyId : String}
    {secret : Secret} {reply : Reply Digest} {accountId : String}
    (named : canonicalAccountId username = some accountId) {left : List Nat}
    (written : reply.lab.failures =
      Function.update lab.failures (lab.failureKey accountId) left)
    (watched : ∀ principal, Watched principal entries (lab.failures principal))
    (mine : Watched (lab.failureKey accountId)
      (entries ++ [{ before := lab, answer := reply
                     input := .authenticate username credential lobbyId nowMs secret }]) left)
    (principal : String) :
    Watched principal
      (entries ++ [{ before := lab, answer := reply
                     input := .authenticate username credential lobbyId nowMs secret }])
      (reply.lab.failures principal) := by
  rw [written]
  by_cases same : principal = lab.failureKey accountId
  · subst same
    rw [Function.update_self]
    exact mine
  · rw [Function.update_of_ne same]
    refine (watched principal).aside ?_
    rw [principalOf_authenticate, named, Option.map_some]
    exact fun other => same (Option.some.inj other).symm

variable [DecidableEq Digest] {digest : List UInt8 → Digest}

theorem watched_authenticate {username : String} {credential : List UInt8} {lobbyId : String}
    {secret : Secret} (watched : ∀ principal, Watched principal entries (lab.failures principal))
    (ordered : (times entries).Pairwise (· ≤ ·)) (later : ∀ time ∈ times entries, time ≤ nowMs)
    (principal : String) :
    Watched principal
      (entries ++ [entryOf digest lab (.authenticate username credential lobbyId nowMs secret)])
      ((perform digest lab
        (.authenticate username credential lobbyId nowMs secret)).lab.failures principal) := by
  have effect := @authenticate_effect _ digest _ lab username lobbyId credential secret nowMs
  simp only [entryOf, perform]
  generalize lab.authenticate digest username credential lobbyId nowMs secret = reply at effect
  cases effect with
  | invalid unnamed =>
      refine (watched principal).aside ?_
      rw [principalOf_authenticate, unnamed, Option.map_none]
      rintro ⟨⟩
  | limited named full =>
      refine watched_withFailures named rfl watched ?_ principal
      exact (watched _).pruned ordered rfl (by simp [IdentitySessionLab.refuse]) (by simp [IdentitySessionLab.refuse])
  | failed named room =>
      refine watched_withFailures named rfl watched ?_ principal
      exact (watched _).failed ordered later rfl (by rw [principalOf_authenticate, named]; rfl) rfl room
  | rejected named =>
      refine watched_withFailures named rfl watched ?_ principal
      exact (watched _).pruned ordered rfl (by simp [IdentitySessionLab.refuse]) (by simp [IdentitySessionLab.refuse])
  | exhausted named used =>
      refine watched_withFailures named rfl watched ?_ principal
      exact (watched _).accepted later rfl (by rw [principalOf_authenticate, named]; rfl)
        ⟨.conflict, by simp, rfl⟩
  | issued named free =>
      refine watched_withFailures named rfl watched ?_ principal
      exact (watched _).accepted later rfl (by rw [principalOf_authenticate, named]; rfl)
        ⟨.authenticated, by simp, rfl⟩

theorem watched_step (watched : (times entries).Pairwise (· ≤ ·) →
      ∀ principal, Watched principal entries (lab.failures principal)) (operation : Operation)
    (ordered : (times (entries ++ [entryOf digest lab operation])).Pairwise (· ≤ ·))
    (principal : String) :
    Watched principal (entries ++ [entryOf digest lab operation])
      ((perform digest lab operation).lab.failures principal) := by
  rw [times_snoc, List.pairwise_append] at ordered
  obtain ⟨before, -, later⟩ := ordered
  have aside : ∀ operation, (perform digest lab operation).lab.failures = lab.failures →
      principalOf (entryOf digest lab operation) = none →
      Watched principal (entries ++ [entryOf digest lab operation])
        ((perform digest lab operation).lab.failures principal) := by
    intro operation same none
    rw [same]
    exact (watched before principal).aside (by rw [none]; exact nofun)
  cases operation with
  | authenticate username credential lobbyId nowMs secret =>
      exact watched_authenticate (watched before) before
        (fun time member => later time member nowMs List.mem_cons_self) principal
  | enroll username credential recovery =>
      refine aside _ ?_ rfl
      simp only [perform, enroll]
      split
      · rfl
      · split <;> split <;> rfl
  | useSession used bearer accountId lobbyId nowMs =>
      refine aside _ ?_ rfl
      simp only [perform, useSession]
      split
      · rfl
      · split_ifs <;> rfl
  | logout used bearer =>
      refine aside _ ?_ rfl
      simp only [perform, logout]
      split
      · rfl
      · split_ifs <;> rfl
  | rotateCredential username current replacement =>
      refine aside _ ?_ rfl
      simp only [perform, rotateCredential]
      split
      · rfl
      · split
        · rfl
        · split_ifs <;> rfl
  | recover username recovery credential replacement =>
      refine aside _ ?_ rfl
      simp only [perform, recover]
      split
      · rfl
      · split
        · rfl
        · split_ifs <;> rfl
  | revokeAccountSessions accountId => exact aside _ rfl rfl
  | createLobby ownerId invite nowMs =>
      refine aside _ ?_ rfl
      simp only [perform, createLobby]
      split <;> rfl
  | redeemInvite peerId invite nowMs =>
      refine aside _ ?_ rfl
      simp only [perform, redeemInvite]
      split
      · rfl
      · split
        · rfl
        · split_ifs <;> rfl
  | setPresence accountId present =>
      refine aside _ ?_ rfl
      simp only [perform, setPresence]
      split
      · rfl
      · split_ifs <;> rfl

end Steps

end Proofs

/-! ## Every run -/

theorem sessionsKept_default {digest : List UInt8 → Digest} : SessionsKept digest [] .default := by
  refine ⟨?_, ?_, ?_, rfl, Nat.zero_le _⟩
  · intro sessionId session impossible
    cases impossible
  · intro first second one other impossible
    cases impossible
  · intro sessionId session impossible
    cases impossible

theorem lobbyKept_default : LobbyKept ([] : List (Entry Digest)) .default := by
  refine ⟨fun _ => rfl, ?_, ?_⟩
  · intro lobby impossible
    cases impossible
  · intro lobby impossible
    cases impossible

section Runs

variable [DecidableEq Digest] (digest : List UInt8 → Digest)

/-- What holds of every run. -/
structure SessionLaw (operations : List Operation) : Prop where
  valid : ∀ front entry back sessionId bearer accountId lobbyId nowMs,
    history digest operations = front ++ entry :: back →
    entry.input = .useSession sessionId bearer accountId lobbyId nowMs →
    entry.answer.disposition = some .sessionValid →
      LawfulUse front sessionId bearer accountId lobbyId nowMs
  single : ∀ first second one other, (final digest operations).sessions first = some one →
    (final digest operations).sessions second = some other →
    one.accountId = other.accountId → first = second
  fresh : (issuedIds (history digest operations)).Nodup
  redeemed : (redemptions (history digest operations)).length ≤ 1
  members : ∀ lobby, (final digest operations).lobby = some lobby → lobby.members.length ≤ 2
  proofs : ∀ principal start,
    inWindow start (acceptedProofs principal (history digest operations)) = [] →
      (inWindow start (failedProofs principal (history digest operations))).length ≤
        rateFailureLimit
  /-- An accepted proof gives no session only when the identifiers have run out. -/
  exhausted : ∀ front entry back, history digest operations = front ++ entry :: back →
    (principalOf entry).isSome → entry.answer.disposition = some .conflict →
      (issuedIds front).length = u64Max

variable {digest}

/-- What is kept over a history and the laboratory it leads to. -/
structure LabKept (digest : List UInt8 → Digest) (entries : List (Entry Digest))
    (lab : IdentitySessionLab Digest) : Prop where
  sessions : SessionsKept digest entries lab
  lobby : LobbyKept entries lab
  proofs : (times entries).Pairwise (· ≤ ·) →
    ∀ principal, Watched principal entries (lab.failures principal)

/-- What an entry has to satisfy after the entries before it. -/
def LawfulEntry (front : List (Entry Digest)) (entry : Entry Digest) : Prop :=
  (∀ sessionId bearer accountId lobbyId nowMs,
    entry.input = .useSession sessionId bearer accountId lobbyId nowMs →
    entry.answer.disposition = some .sessionValid →
      LawfulUse front sessionId bearer accountId lobbyId nowMs) ∧
  ((principalOf entry).isSome → entry.answer.disposition = some .conflict →
    (issuedIds front).length = u64Max)

theorem lawfulEntry_of_kept {entries : List (Entry Digest)} {lab : IdentitySessionLab Digest}
    (injective : Function.Injective digest) (kept : SessionsKept digest entries lab)
    (operation : Operation) : LawfulEntry entries (entryOf digest lab operation) := by
  constructor
  · intro sessionId bearer accountId lobbyId nowMs used valid
    cases operation <;> cases used
    exact lawfulUse_of_valid kept injective valid
  · intro attempted conflict
    cases operation with
    | authenticate username credential lobbyId nowMs secret =>
        have effect := @authenticate_effect _ digest _ lab username lobbyId credential secret nowMs
        simp only [entryOf, perform] at conflict
        generalize lab.authenticate digest username credential lobbyId nowMs secret = reply
          at effect conflict
        cases effect with
        | exhausted named used =>
            rw [kept.issued, List.length_map, List.length_range]
            exact Nat.le_antisymm kept.bounded (Nat.le_of_lt_succ used)
        | invalid | limited | failed | rejected | issued => cases conflict
    | _ => cases attempted

theorem labKept_run (injective : Function.Injective digest) (operations : List Operation) :
    LabKept digest (history digest operations) (final digest operations) ∧
      ∀ front entry back, history digest operations = front ++ entry :: back →
        LawfulEntry front entry := by
  apply turns_keep (LabKept digest) LawfulEntry
  · exact ⟨sessionsKept_default, lobbyKept_default, fun _ _ => watched_nil⟩
  · rintro entries operation - lab reply kept ⟨rfl⟩
    refine ⟨⟨kept.sessions.step operation, kept.lobby.step operation, ?_⟩,
      lawfulEntry_of_kept injective kept.sessions operation⟩
    exact fun ordered principal => watched_step kept.proofs operation ordered principal

theorem times_history (operations : List Operation) :
    times (history digest operations) = operations.filterMap Operation.nowMs := by
  have inputs : (history digest operations).map Turn.input = operations :=
    turns_inputs (fun lab operation => ⟨_, rfl⟩) operations _
  conv => rhs; rw [← inputs]
  rw [List.filterMap_map]
  rfl

theorem session_law (injective : Function.Injective digest) {operations : List Operation}
    (ordered : (operations.filterMap Operation.nowMs).Pairwise (· ≤ ·)) :
    SessionLaw digest operations := by
  obtain ⟨kept, lawful⟩ := labKept_run injective operations
  rw [← @times_history _ _ digest] at ordered
  refine ⟨?_, kept.sessions.single, ?_, ?_, kept.lobby.members,
    fun principal => (kept.proofs ordered principal).few, ?_⟩
  · intro front entry back sessionId bearer accountId lobbyId nowMs split
    exact (lawful front entry back split).1 sessionId bearer accountId lobbyId nowMs
  · rw [kept.sessions.issued]
    refine List.Nodup.map ?_ List.nodup_range
    intro first second same
    exact Nat.succ_injective (sessionName_inj same)
  · cases opened : (final digest operations).lobby with
    | none =>
        rw [kept.lobby.unopened opened]
        exact Nat.zero_le 1
    | some lobby =>
        rw [kept.lobby.redeemed lobby opened]
        split
        · exact le_refl 1
        · exact Nat.zero_le 1
  · intro front entry back split
    exact (lawful front entry back split).2

end Runs

/-! ## A run that uses up the session identifiers -/

def successes (principal : String) (entries : List (Entry Digest)) : List Nat :=
  entries.filterMap (attempt [.authenticated] principal)

def spoken (letter : UInt8) : Secret :=
  { bytes := List.replicate secretBytes letter, size := List.length_replicate }

def opening : List Operation :=
  [.enroll "echo" (spoken 1) (spoken 2), .createLobby "local:echo" (spoken 3) 0]

def login (nowMs : Nat) : Operation :=
  .authenticate "echo" (spoken 1).bytes theLobbyId nowMs (spoken 4)

def guess (nowMs : Nat) : Operation :=
  .authenticate "echo" (spoken 9).bytes theLobbyId nowMs (spoken 4)

/-- Four guesses, a login and five guesses again, a minute after the last of
all possible sessions. -/
def guesses : List Operation :=
  List.replicate 4 (guess 60000) ++ [login 60000] ++ List.replicate 5 (guess 60000)

def flood : List Operation := opening ++ List.replicate u64Max (login 0) ++ guesses

/-- The laboratory after a number of logins; its digest is the secret itself. -/
def loggedIn (number : Nat) : IdentitySessionLab (List UInt8) :=
  { accounts := [{ canonicalId := "local:echo", displayName := "echo"
                   credential := (spoken 1).bytes, recovery := (spoken 2).bytes, generation := 1 }]
    sessions := fun id =>
      if 0 < number ∧ id = sessionName number then
        some { accountId := "local:echo", lobbyId := theLobbyId, bearer := (spoken 4).bytes
               issuedAtMs := 0, lastUsedAtMs := 0, revoked := false }
      else none
    failures := fun _ => []
    lobby := some { id := theLobbyId, ownerId := "local:echo", members := [("local:echo", true)]
                    invite := { bearer := (spoken 3).bytes, expiresAtMs := inviteLifetimeMs
                                redeemedBy := none } }
    nextSessionId := number
    protectedMutations := (number + 2) % (u64Max + 1) }

theorem canonicalAccountId_echo : canonicalAccountId "echo" = some "local:echo" := by
  decide +kernel

theorem final_opening : final id opening = loggedIn 0 := by
  unfold loggedIn
  simp [final, reached, opening, takeTurn, answer, perform, Call.final, Call.commit,
    IdentitySessionLab.enroll, IdentitySessionLab.createLobby, IdentitySessionLab.account,
    IdentitySessionLab.default, IdentitySessionLab.mutate, canonicalAccountId_echo, wrappingSucc]
  rfl

/-- One login more. -/
theorem perform_login {number : Nat} (free : number + 1 ≤ u64Max) :
    (perform id (loggedIn number) (login 0)).lab = loggedIn (number + 1) := by
  have account : (loggedIn number).account "local:echo" =
      some { canonicalId := "local:echo", displayName := "echo", credential := (spoken 1).bytes
             recovery := (spoken 2).bytes, generation := 1 } := by
    simp [IdentitySessionLab.account, loggedIn]
  have principal : (loggedIn number).failureKey "local:echo" = "local:echo" := by
    rw [IdentitySessionLab.failureKey, account]
    rfl
  have proven : IdentitySessionLab.verifierMatches id (spoken 1).bytes (spoken 1).bytes = true := by
    decide
  have admitted : (loggedIn number).admitted "local:echo" theLobbyId :=
    ⟨_, rfl, rfl, ("local:echo", true), List.mem_singleton_self _, rfl⟩
  have unused : ¬ (loggedIn number).nextSessionId + 1 > u64Max := Nat.not_lt.mpr free
  have reply : perform id (loggedIn number) (login 0) =
      { disposition := some .authenticated, sessionId := some (sessionName (number + 1))
        lab := ((loggedIn number).withFailures "local:echo" []).issue id "local:echo" theLobbyId 0
          (spoken 4) } := by
    simp only [perform, login, IdentitySessionLab.authenticate, canonicalAccountId_echo, principal,
      account, Option.any_some, proven, admitted, unused, Bool.true_eq_false, if_false, not_true]
    rfl
  rw [reply]
  refine IdentitySessionLab.ext rfl ?_ ?_ rfl rfl ?_
  · funext sessionId
    by_cases here : sessionId = sessionName (number + 1)
    · subst here
      simp [IdentitySessionLab.issue, IdentitySessionLab.withFailures, loggedIn]
    · simp [IdentitySessionLab.issue, IdentitySessionLab.withFailures, loggedIn, here]
  · funext key
    simp [IdentitySessionLab.issue, IdentitySessionLab.withFailures, loggedIn]
  · simp only [IdentitySessionLab.issue, IdentitySessionLab.withFailures, loggedIn, wrappingSucc]
    rw [Nat.mod_add_mod]

theorem final_snoc (operations : List Operation) (operation : Operation) :
    final id (operations ++ [operation]) =
      (perform id (final id operations) operation).lab := by
  unfold final reached
  rw [Call.final_append]
  rfl

theorem final_logins {number : Nat} (fits : number ≤ u64Max) :
    final id (opening ++ List.replicate number (login 0)) = loggedIn number := by
  induction number with
  | zero =>
      rw [List.replicate_zero, List.append_nil]
      exact final_opening
  | succ number inductionHypothesis =>
      rw [List.replicate_succ', ← List.append_assoc, final_snoc,
        inductionHypothesis (Nat.le_of_succ_le fits)]
      exact perform_login fits

/-- The guesses after the last session: the login between them is refused, and
lets the guesses begin anew. -/
theorem guesses_exhausted :
    successes "local:echo" (turns (answer id) Reply.lab guesses (loggedIn u64Max)) = [] ∧
      failedProofs "local:echo" (turns (answer id) Reply.lab guesses (loggedIn u64Max)) =
        List.replicate 9 60000 := by
  decide +kernel

theorem history_flood : history id flood =
    history id (opening ++ List.replicate u64Max (login 0)) ++
      turns (answer id) Reply.lab guesses (loggedIn u64Max) := by
  unfold history flood
  rw [turns_append]
  change _ ++ turns (answer id) Reply.lab guesses (final id _) = _
  rw [final_logins (le_refl _)]

theorem failures_exceed :
    ¬ ∀ operations : List Operation, (operations.filterMap Operation.nowMs).Pairwise (· ≤ ·) →
      ∀ principal start, inWindow start (successes principal (history id operations)) = [] →
        (inWindow start (failedProofs principal (history id operations))).length ≤
          rateFailureLimit := by
  intro claimed
  have early : ∀ time ∈ (opening ++ List.replicate u64Max (login 0)).filterMap Operation.nowMs,
      time = 0 := by
    intro time member
    obtain ⟨operation, listed, timed⟩ := List.mem_filterMap.mp member
    rcases List.mem_append.mp listed with first | later
    · simp only [opening, List.mem_cons, List.not_mem_nil, or_false] at first
      rcases first with rfl | rfl <;> cases timed
      rfl
    · rw [(List.mem_replicate.mp later).2] at timed
      exact (Option.some.inj timed).symm
  have late : ∀ time ∈ guesses.filterMap Operation.nowMs, time = 60000 := by
    decide
  have ordered : (flood.filterMap Operation.nowMs).Pairwise (· ≤ ·) := by
    rw [flood, List.filterMap_append, List.pairwise_append]
    refine ⟨?_, by decide, ?_⟩
    · apply List.pairwise_of_forall_mem_list
      intro first firstMember second secondMember
      rw [early first firstMember, early second secondMember]
    · intro first firstMember second secondMember
      rw [early first firstMember, late second secondMember]
      exact Nat.zero_le _
  have none : inWindow 60000 (successes "local:echo" (history id flood)) = [] := by
    rw [history_flood, successes, List.filterMap_append]
    change inWindow 60000 (_ ++ successes "local:echo" _) = []
    rw [guesses_exhausted.1, List.append_nil, inWindow_eq_nil]
    intro time member within
    have listed := mem_times_of_attempt member
    rw [times_history] at listed
    have := early time listed
    omega
  have nine := claimed flood ordered "local:echo" 60000 none
  rw [history_flood, failedProofs, List.filterMap_append] at nine
  change (inWindow 60000 (_ ++ failedProofs "local:echo" _)).length ≤ 5 at nine
  rw [guesses_exhausted.2, inWindow_append, List.length_append] at nine
  have counted : (inWindow 60000 (List.replicate 9 60000)).length = 9 := by decide
  omega

/-- A login and a use at the last instant before the session idles out. -/
def visit : List Operation :=
  opening ++ [login 0,
    .useSession (sessionName 1) (spoken 4) "local:echo" theLobbyId sessionIdleMs]

theorem session_law_visit :
    SessionLaw id visit ∧ (history id visit).map (fun entry => entry.answer.disposition) =
      [some .enrolled, some .lobbyCreated, some .authenticated, some .sessionValid] :=
  ⟨session_law Function.injective_id (by decide +kernel), by decide +kernel⟩

end Security
end Revenant
