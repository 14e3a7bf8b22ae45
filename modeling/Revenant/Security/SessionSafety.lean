import Revenant.Library.Windows
import Revenant.Security.IdentitySession

namespace Revenant
namespace Security

open Library

/-!
# The safety of sessions

A session is good for the account that proved itself last, with the bearer it
was issued with, until something ends it or its time runs out.  What a stored
session stands on is told from the history alone.

`Ends` lists what ends a session, and `LawfulUse` reads a valid use against
that list and against the two lifetimes.  Both look at inputs and answers
only, never at the state behind them.
-/

variable {Digest : Type}

/-! ## What histories tell -/

/-- A session comes into being. -/
def Issues (entry : Entry Digest) (sessionId accountId lobbyId : String) (secret : Secret)
    (issuedAtMs : Nat) : Prop :=
  ∃ username credential,
    entry.input = .authenticate username credential lobbyId issuedAtMs secret ∧
      canonicalAccountId username = some accountId ∧
      entry.answer.disposition = some .authenticated ∧ entry.answer.sessionId = some sessionId

/-- What ends a session: another one of the account, a logout, a rotation, a
recovery, a revocation or an expiry it was told of. -/
def Ends (accountId sessionId : String) (entry : Entry Digest) : Prop :=
  match entry.input with
  | .authenticate username _ _ _ _ =>
      canonicalAccountId username = some accountId ∧
        entry.answer.disposition = some .authenticated
  | .useSession used _ _ _ _ =>
      used = sessionId ∧ (entry.answer.disposition = some .expiredAbsolute ∨
        entry.answer.disposition = some .expiredIdle)
  | .logout used _ => used = sessionId ∧ entry.answer.disposition = some .revoked
  | .rotateCredential username _ _ =>
      canonicalAccountId username = some accountId ∧ entry.answer.disposition = some .rotated
  | .recover username _ _ _ =>
      canonicalAccountId username = some accountId ∧ entry.answer.disposition = some .recovered
  | .revokeAccountSessions revoked => revoked = accountId
  | _ => False

/-- The time of a valid use. -/
def validUse (sessionId : String) (entry : Entry Digest) : Option Nat :=
  match entry.input with
  | .useSession used _ _ _ nowMs =>
      if used = sessionId ∧ entry.answer.disposition = some .sessionValid then some nowMs else none
  | _ => none

/-- The latest valid use, or else the issue. -/
def lastUse (sessionId : String) (issuedAtMs : Nat) (since : List (Entry Digest)) : Nat :=
  (since.filterMap (validUse sessionId)).getLast?.getD issuedAtMs

/-- What makes a use of a session lawful. -/
def LawfulUse (front : List (Entry Digest)) (sessionId : String) (bearer : Secret)
    (accountId lobbyId : String) (nowMs : Nat) : Prop :=
  ∃ before issue since issuedAtMs, front = before ++ issue :: since ∧
    Issues issue sessionId accountId lobbyId bearer issuedAtMs ∧
    (∀ entry ∈ since, ¬ Ends accountId sessionId entry) ∧
    nowMs ≤ issuedAtMs + sessionAbsoluteMs ∧
    nowMs ≤ lastUse sessionId issuedAtMs since + sessionIdleMs

def issuedIds (entries : List (Entry Digest)) : List String :=
  entries.filterMap (fun entry => entry.answer.sessionId)

variable (digest : List UInt8 → Digest)

/-- What a stored session that is not revoked stands on. -/
def Standing (entries : List (Entry Digest)) (sessionId : String)
    (session : SessionRecord Digest) : Prop :=
  ∃ before issue since secret, entries = before ++ issue :: since ∧
    Issues issue sessionId session.accountId session.lobbyId secret session.issuedAtMs ∧
    digest secret.bytes = session.bearer ∧
    (∀ entry ∈ since, ¬ Ends session.accountId sessionId entry) ∧
    session.lastUsedAtMs = lastUse sessionId session.issuedAtMs since

/-- The sessions a history leads to. -/
structure SessionsKept (entries : List (Entry Digest)) (lab : IdentitySessionLab Digest) :
    Prop where
  standing : ∀ sessionId session, lab.sessions sessionId = some session →
    session.revoked = false → Standing digest entries sessionId session
  single : ∀ first second one other, lab.sessions first = some one →
    lab.sessions second = some other → one.accountId = other.accountId → first = second
  named : ∀ sessionId session, lab.sessions sessionId = some session →
    ∃ number ≤ lab.nextSessionId, sessionId = sessionName number
  issued : issuedIds entries =
    (List.range lab.nextSessionId).map (fun number => sessionName (number + 1))
  bounded : lab.nextSessionId ≤ u64Max

/-! ## What the operations do to sessions -/

section Effects

variable [DecidableEq Digest] {lab : IdentitySessionLab Digest} {username sessionId accountId lobbyId : String}
  {credential : List UInt8} {bearer sessionSecret : Secret} {nowMs : Nat}

open IdentitySessionLab

inductive AuthenticateEffect (lab : IdentitySessionLab Digest) (username lobbyId : String)
    (credential : List UInt8) (nowMs : Nat) (sessionSecret : Secret) : Reply Digest → Prop
  | invalid (unnamed : canonicalAccountId username = none) :
      AuthenticateEffect lab username lobbyId credential nowMs sessionSecret
        (lab.refuse .invalidInput)
  | limited {accountId : String} (named : canonicalAccountId username = some accountId)
      (full : rateFailureLimit ≤ (retained nowMs (lab.failures (lab.failureKey accountId))).length) :
      AuthenticateEffect lab username lobbyId credential nowMs sessionSecret
        ((lab.withFailures (lab.failureKey accountId)
          (retained nowMs (lab.failures (lab.failureKey accountId)))).refuse .rateLimited)
  | failed {accountId : String} (named : canonicalAccountId username = some accountId)
      (room : (retained nowMs (lab.failures (lab.failureKey accountId))).length < rateFailureLimit) :
      AuthenticateEffect lab username lobbyId credential nowMs sessionSecret
        ((lab.withFailures (lab.failureKey accountId)
          (retained nowMs (lab.failures (lab.failureKey accountId)) ++ [nowMs])).refuse
            .authenticationFailed)
  | rejected {accountId : String} (named : canonicalAccountId username = some accountId) :
      AuthenticateEffect lab username lobbyId credential nowMs sessionSecret
        ((lab.withFailures (lab.failureKey accountId)
          (retained nowMs (lab.failures (lab.failureKey accountId)))).refuse .sessionRejected)
  | exhausted {accountId : String} (named : canonicalAccountId username = some accountId)
      (used : u64Max < lab.nextSessionId + 1) :
      AuthenticateEffect lab username lobbyId credential nowMs sessionSecret
        ((lab.withFailures (lab.failureKey accountId) []).refuse .conflict)
  | issued {accountId : String} (named : canonicalAccountId username = some accountId)
      (free : lab.nextSessionId + 1 ≤ u64Max) :
      AuthenticateEffect lab username lobbyId credential nowMs sessionSecret
        { disposition := some .authenticated
          sessionId := some (sessionName (lab.nextSessionId + 1))
          lab := (lab.withFailures (lab.failureKey accountId) []).issue digest accountId lobbyId
            nowMs sessionSecret }

theorem authenticate_effect : AuthenticateEffect digest lab username lobbyId credential nowMs
    sessionSecret (lab.authenticate digest username credential lobbyId nowMs sessionSecret) := by
  unfold authenticate
  cases named : canonicalAccountId username with
  | none => exact .invalid named
  | some accountId =>
      simp only
      split_ifs with full wrong stranger used
      · exact .limited named full
      · exact .failed named (Nat.lt_of_not_le full)
      · exact .exhausted named used
      · exact .issued named (Nat.le_of_not_lt used)
      · exact .rejected named

inductive UseEffect (lab : IdentitySessionLab Digest) (sessionId : String) (bearer : Secret)
    (accountId lobbyId : String) (nowMs : Nat) : Reply Digest → Prop
  | rejected : UseEffect lab sessionId bearer accountId lobbyId nowMs (lab.refuse .sessionRejected)
  | expired {session : SessionRecord Digest} {disposition : Disposition}
      (stored : lab.sessions sessionId = some session)
      (expiry : disposition = .expiredAbsolute ∨ disposition = .expiredIdle) :
      UseEffect lab sessionId bearer accountId lobbyId nowMs
        (mutate (lab.withSession sessionId { session with revoked := true }) disposition)
  | valid {session : SessionRecord Digest} (stored : lab.sessions sessionId = some session)
      (standing : session.revoked = false) (owner : session.accountId = accountId)
      (lobby : session.lobbyId = lobbyId) (proven : digest bearer.bytes = session.bearer)
      (absolute : nowMs ≤ session.issuedAtMs + sessionAbsoluteMs)
      (idle : nowMs ≤ session.lastUsedAtMs + sessionIdleMs) :
      UseEffect lab sessionId bearer accountId lobbyId nowMs
        (mutate (lab.withSession sessionId { session with lastUsedAtMs := nowMs }) .sessionValid)

theorem useSession_effect : UseEffect digest lab sessionId bearer accountId lobbyId nowMs
    (lab.useSession digest sessionId bearer accountId lobbyId nowMs) := by
  unfold useSession
  cases stored : lab.sessions sessionId with
  | none => exact .rejected
  | some session =>
      simp only
      split_ifs with refused old unused
      · exact .rejected
      · exact .expired stored (Or.inl rfl)
      · exact .expired stored (Or.inr rfl)
      · simp only [not_or, not_not, Bool.not_eq_true, Bool.not_eq_false, verifierMatches,
          Bool.and_eq_true, decide_eq_true_eq] at refused
        obtain ⟨standing, owner, lobby, -, proven⟩ := refused
        exact .valid stored standing owner lobby proven (by omega) (by omega)

end Effects

/-! ## One operation more -/

section Steps

variable {digest} {entries : List (Entry Digest)} {lab next : IdentitySessionLab Digest}
  {entry : Entry Digest} {sessionId accountId : String} {session : SessionRecord Digest}

theorem lastUse_snoc {issuedAtMs : Nat} {since : List (Entry Digest)} :
    lastUse sessionId issuedAtMs (since ++ [entry]) =
      (validUse sessionId entry).getD (lastUse sessionId issuedAtMs since) := by
  unfold lastUse
  rw [filterMap_snoc]
  cases validUse sessionId entry with
  | none => rw [Option.toList_none, List.append_nil, Option.getD_none]
  | some nowMs => rw [Option.toList_some, List.getLast?_append]; rfl

/-- A session that is not ended stands on, with its last use brought up to date. -/
theorem Standing.snoc (standing : Standing digest entries sessionId session)
    (lasts : ¬ Ends session.accountId sessionId entry) :
    Standing digest (entries ++ [entry]) sessionId
      { session with
        lastUsedAtMs := (validUse sessionId entry).getD session.lastUsedAtMs } := by
  obtain ⟨before, issue, since, secret, rfl, issues, proven, quiet, used⟩ := standing
  refine ⟨before, issue, since ++ [entry], secret, ?_, issues, proven, ?_, ?_⟩
  · rw [List.append_assoc, List.cons_append]
  · intro other member
    rw [List.mem_append, List.mem_singleton] at member
    rcases member with old | rfl
    · exact quiet other old
    · exact lasts
  · rw [lastUse_snoc, ← used]

/-- How a stored session comes through an operation that issues none. -/
def CarriedOver (entry : Entry Digest) (sessionId : String) (old new : SessionRecord Digest) :
    Prop :=
  new.accountId = old.accountId ∧ (new.revoked = false →
    old.revoked = false ∧ ¬ Ends old.accountId sessionId entry ∧
      new = { old with lastUsedAtMs := (validUse sessionId entry).getD old.lastUsedAtMs })

theorem SessionsKept.carry (kept : SessionsKept digest entries lab)
    (carried : ∀ sessionId new, next.sessions sessionId = some new →
      ∃ old, lab.sessions sessionId = some old ∧ CarriedOver entry sessionId old new)
    (numbered : next.nextSessionId = lab.nextSessionId)
    (silent : entry.answer.sessionId = none) : SessionsKept digest (entries ++ [entry]) next := by
  refine ⟨?_, ?_, ?_, ?_, ?_⟩
  · intro sessionId new stored current
    obtain ⟨old, found, -, comes⟩ := carried sessionId new stored
    obtain ⟨standing, lasts, same⟩ := comes current
    rw [same]
    exact (kept.standing sessionId old found standing).snoc lasts
  · intro first second one other firstStored secondStored same
    obtain ⟨oldOne, firstFound, firstAccount, -⟩ := carried first one firstStored
    obtain ⟨oldOther, secondFound, secondAccount, -⟩ := carried second other secondStored
    refine kept.single first second oldOne oldOther firstFound secondFound ?_
    rw [← firstAccount, ← secondAccount, same]
  · intro sessionId new stored
    obtain ⟨old, found, -⟩ := carried sessionId new stored
    rw [numbered]
    exact kept.named sessionId old found
  · rw [issuedIds, filterMap_snoc, silent, Option.toList_none, List.append_nil, numbered]
    exact kept.issued
  · rw [numbered]
    exact kept.bounded

/-- An operation that leaves the sessions alone. -/
theorem SessionsKept.quiet (kept : SessionsKept digest entries lab)
    (same : next.sessions = lab.sessions) (numbered : next.nextSessionId = lab.nextSessionId)
    (silent : entry.answer.sessionId = none)
    (lasts : ∀ accountId sessionId, ¬ Ends accountId sessionId entry)
    (unused : ∀ sessionId, validUse sessionId entry = none) :
    SessionsKept digest (entries ++ [entry]) next := by
  refine kept.carry ?_ numbered silent
  intro sessionId new stored
  rw [same] at stored
  refine ⟨new, stored, rfl, fun current => ⟨current, lasts _ _, ?_⟩⟩
  rw [unused, Option.getD_none]

/-- A write to one stored session. -/
theorem SessionsKept.write (kept : SessionsKept digest entries lab)
    {old new : SessionRecord Digest} (stored : lab.sessions sessionId = some old)
    (written : next.sessions = Function.update lab.sessions sessionId (some new))
    (numbered : next.nextSessionId = lab.nextSessionId)
    (silent : entry.answer.sessionId = none) (carried : CarriedOver entry sessionId old new)
    (others : ∀ other, other ≠ sessionId →
      (∀ accountId, ¬ Ends accountId other entry) ∧ validUse other entry = none) :
    SessionsKept digest (entries ++ [entry]) next := by
  refine kept.carry ?_ numbered silent
  intro other found here
  rw [written] at here
  by_cases same : other = sessionId
  · subst same
    rw [Function.update_self, Option.some.injEq] at here
    exact ⟨old, stored, here ▸ carried⟩
  · rw [Function.update_of_ne same] at here
    obtain ⟨lasts, unused⟩ := others other same
    refine ⟨found, here, rfl, fun current => ⟨current, lasts _, ?_⟩⟩
    rw [unused, Option.getD_none]

/-- Every session of an account is revoked. -/
theorem SessionsKept.revoke (kept : SessionsKept digest entries lab)
    (revoked : next.sessions = (lab.revokeAccountSessions accountId).sessions)
    (numbered : next.nextSessionId = lab.nextSessionId)
    (silent : entry.answer.sessionId = none)
    (others : ∀ other sessionId, other ≠ accountId → ¬ Ends other sessionId entry)
    (unused : ∀ sessionId, validUse sessionId entry = none) :
    SessionsKept digest (entries ++ [entry]) next := by
  refine kept.carry ?_ numbered silent
  intro sessionId new stored
  rw [revoked] at stored
  obtain ⟨old, found, rfl⟩ := Option.map_eq_some_iff.mp stored
  refine ⟨old, found, ?_⟩
  by_cases owned : old.accountId = accountId
  · rw [if_pos owned]
    exact ⟨rfl, fun current => by cases current⟩
  · rw [if_neg owned]
    refine ⟨rfl, fun current => ⟨current, others _ _ owned, ?_⟩⟩
    rw [unused, Option.getD_none]

/-- A new session replaces the one of its account. -/
theorem SessionsKept.issue (kept : SessionsKept digest entries lab)
    {lobbyId : String} {nowMs : Nat} {secret : Secret}
    (free : lab.nextSessionId + 1 ≤ u64Max)
    (written : next.sessions = (lab.issue digest accountId lobbyId nowMs secret).sessions)
    (numbered : next.nextSessionId = lab.nextSessionId + 1)
    (issues : Issues entry (sessionName (lab.nextSessionId + 1)) accountId lobbyId secret nowMs)
    (others : ∀ other sessionId, other ≠ accountId → ¬ Ends other sessionId entry)
    (unused : ∀ sessionId, validUse sessionId entry = none) :
    SessionsKept digest (entries ++ [entry]) next := by
  -- a stored session is the new one or an old one of another account
  have stored : ∀ sessionId session, next.sessions sessionId = some session →
      (sessionId = sessionName (lab.nextSessionId + 1) ∧
        session = { accountId, lobbyId, bearer := digest secret.bytes, issuedAtMs := nowMs
                    lastUsedAtMs := nowMs, revoked := false }) ∨
      (lab.sessions sessionId = some session ∧ session.accountId ≠ accountId) := by
    intro sessionId session found
    rw [written] at found
    by_cases here : sessionId = sessionName (lab.nextSessionId + 1)
    · subst here
      simp only [IdentitySessionLab.issue, Function.update_self, Option.some.injEq] at found
      exact Or.inl ⟨rfl, found.symm⟩
    · simp only [IdentitySessionLab.issue, Function.update_of_ne here,
        Option.filter_eq_some_iff, decide_eq_true_eq] at found
      exact Or.inr found
  refine ⟨?_, ?_, ?_, ?_, ?_⟩
  · intro sessionId session found current
    rcases stored sessionId session found with ⟨rfl, rfl⟩ | ⟨old, other⟩
    · refine ⟨entries, entry, [], secret, rfl, issues, rfl, ?_, rfl⟩
      intro other member
      exact absurd member List.not_mem_nil
    · have standing := (kept.standing sessionId session old current).snoc (others _ _ other)
      rwa [unused, Option.getD_none] at standing
  · intro first second one other firstFound secondFound same
    rcases stored first one firstFound with ⟨rfl, rfl⟩ | ⟨firstOld, firstOther⟩
    · rcases stored second other secondFound with ⟨rfl, rfl⟩ | ⟨secondOld, secondOther⟩
      · rfl
      · exact absurd same.symm secondOther
    · rcases stored second other secondFound with ⟨rfl, rfl⟩ | ⟨secondOld, secondOther⟩
      · exact absurd same firstOther
      · exact kept.single first second one other firstOld secondOld same
  · intro sessionId session found
    rw [numbered]
    rcases stored sessionId session found with ⟨rfl, rfl⟩ | ⟨old, -⟩
    · exact ⟨_, le_refl _, rfl⟩
    · obtain ⟨number, known, name⟩ := kept.named sessionId session old
      exact ⟨number, Nat.le_succ_of_le known, name⟩
  · obtain ⟨_, _, _, _, _, answered⟩ := issues
    rw [issuedIds, filterMap_snoc, answered, Option.toList_some, numbered, List.range_succ,
      List.map_append, List.map_cons, List.map_nil]
    exact congrArg (· ++ [sessionName (lab.nextSessionId + 1)]) kept.issued
  · rw [numbered]
    exact free

end Steps

/-! ## Every operation -/

section Operations

open IdentitySessionLab

variable [DecidableEq Digest] {digest} {entries : List (Entry Digest)}
  {lab : IdentitySessionLab Digest}

/-- The entry an operation makes. -/
def entryOf (digest : List UInt8 → Digest) (lab : IdentitySessionLab Digest)
    (operation : Operation) : Entry Digest :=
  { before := lab, input := operation, answer := perform digest lab operation }

/-- An operation that neither writes a session nor reads one. -/
theorem SessionsKept.aside (kept : SessionsKept digest entries lab) {operation : Operation}
    (sessions : (perform digest lab operation).lab.sessions = lab.sessions)
    (numbered : (perform digest lab operation).lab.nextSessionId = lab.nextSessionId)
    (silent : (perform digest lab operation).sessionId = none)
    (lasts : ∀ accountId sessionId, ¬ Ends accountId sessionId (entryOf digest lab operation))
    (unused : ∀ sessionId, validUse sessionId (entryOf digest lab operation) = none) :
    SessionsKept digest (entries ++ [entryOf digest lab operation])
      (perform digest lab operation).lab :=
  kept.quiet sessions numbered silent lasts unused

theorem SessionsKept.authenticate (kept : SessionsKept digest entries lab) {username : String}
    {credential : List UInt8} {lobbyId : String} {nowMs : Nat} {secret : Secret} :
    SessionsKept digest
      (entries ++ [entryOf digest lab (.authenticate username credential lobbyId nowMs secret)])
      (perform digest lab (.authenticate username credential lobbyId nowMs secret)).lab := by
  have effect := @authenticate_effect _ digest _ lab username lobbyId credential secret nowMs
  have quiet : ∀ reply : Reply Digest, reply.lab.sessions = lab.sessions →
      reply.lab.nextSessionId = lab.nextSessionId → reply.sessionId = none →
      reply.disposition ≠ some .authenticated → SessionsKept digest
        (entries ++ [{ before := lab, answer := reply
                       input := .authenticate username credential lobbyId nowMs secret }])
        reply.lab := by
    intro reply sessions numbered silent other
    refine kept.quiet sessions numbered silent ?_ ?_
    · intro accountId sessionId ended
      exact other ended.2
    · intro sessionId
      rfl
  simp only [entryOf, perform]
  generalize lab.authenticate digest username credential lobbyId nowMs secret = reply at effect
  cases effect with
  | invalid unnamed => exact quiet _ rfl rfl rfl (by simp [IdentitySessionLab.refuse])
  | limited named full => exact quiet _ rfl rfl rfl (by simp [IdentitySessionLab.refuse])
  | failed named room => exact quiet _ rfl rfl rfl (by simp [IdentitySessionLab.refuse])
  | rejected named => exact quiet _ rfl rfl rfl (by simp [IdentitySessionLab.refuse])
  | exhausted named used => exact quiet _ rfl rfl rfl (by simp [IdentitySessionLab.refuse])
  | issued named free =>
      refine kept.issue free rfl rfl ⟨username, credential, rfl, named, rfl, rfl⟩ ?_ ?_
      · intro other sessionId different ended
        exact different (Option.some.inj (ended.1.symm.trans named))
      · intro sessionId
        rfl

theorem SessionsKept.useSession (kept : SessionsKept digest entries lab) {used : String}
    {bearer : Secret} {accountId lobbyId : String} {nowMs : Nat} :
    SessionsKept digest
      (entries ++ [entryOf digest lab (.useSession used bearer accountId lobbyId nowMs)])
      (perform digest lab (.useSession used bearer accountId lobbyId nowMs)).lab := by
  have effect := @useSession_effect _ digest _ lab used accountId lobbyId bearer nowMs
  simp only [entryOf, perform]
  generalize lab.useSession digest used bearer accountId lobbyId nowMs = reply at effect
  cases effect with
  | rejected =>
      refine kept.quiet rfl rfl rfl ?_ ?_
      · rintro owner sessionId ⟨-, impossible | impossible⟩ <;> cases impossible
      · intro sessionId
        simp [validUse, IdentitySessionLab.refuse]
  | expired stored expiry =>
      refine kept.write stored rfl rfl rfl ⟨rfl, fun current => by cases current⟩ ?_
      intro other different
      refine ⟨fun owner ended => different ended.1.symm, ?_⟩
      simp [validUse, Ne.symm different]
  | valid stored standing owner lobby proven absolute idle =>
      refine kept.write stored rfl rfl rfl ⟨rfl, fun _ => ⟨standing, ?_, ?_⟩⟩ ?_
      · rintro ⟨-, impossible | impossible⟩ <;> cases impossible
      · simp [validUse, mutate]
      · intro other different
        refine ⟨fun owner ended => different ended.1.symm, ?_⟩
        simp [validUse, Ne.symm different]

theorem SessionsKept.logout (kept : SessionsKept digest entries lab) {used : String}
    {bearer : Secret} :
    SessionsKept digest (entries ++ [entryOf digest lab (.logout used bearer)])
      (perform digest lab (.logout used bearer)).lab := by
  simp only [entryOf, perform, IdentitySessionLab.logout]
  have quiet : SessionsKept digest (entries ++ [{ before := lab, input := .logout used bearer
                                                  answer := lab.refuse .sessionRejected }]) lab := by
    refine kept.quiet rfl rfl rfl ?_ (fun _ => rfl)
    rintro owner sessionId ⟨-, impossible⟩
    cases impossible
  cases stored : lab.sessions used with
  | none => exact quiet
  | some session =>
      simp only
      split_ifs with refused
      · exact quiet
      · refine kept.write stored rfl rfl rfl ⟨rfl, fun current => by cases current⟩ ?_
        intro other different
        exact ⟨fun owner ended => different ended.1.symm, rfl⟩

theorem SessionsKept.rotateCredential (kept : SessionsKept digest entries lab)
    {username : String} {current replacement : Secret} :
    SessionsKept digest
      (entries ++ [entryOf digest lab (.rotateCredential username current replacement)])
      (perform digest lab (.rotateCredential username current replacement)).lab := by
  simp only [entryOf, perform, IdentitySessionLab.rotateCredential]
  have quiet : ∀ disposition, disposition ≠ .rotated → SessionsKept digest
      (entries ++ [{ before := lab, input := .rotateCredential username current replacement
                     answer := lab.refuse disposition }]) lab := by
    intro disposition other
    refine kept.quiet rfl rfl rfl ?_ (fun _ => rfl)
    rintro owner sessionId ⟨-, same⟩
    exact other (Option.some.inj same)
  cases named : canonicalAccountId username with
  | none => exact quiet _ (by decide)
  | some accountId =>
      simp only
      cases known : lab.account accountId with
      | none => exact quiet _ (by decide)
      | some account =>
          simp only
          split_ifs with wrong
          · exact quiet _ (by decide)
          · refine kept.revoke rfl rfl rfl ?_ (fun _ => rfl)
            intro other sessionId different ended
            exact different (Option.some.inj (ended.1.symm.trans named))

theorem SessionsKept.recover (kept : SessionsKept digest entries lab) {username : String}
    {recovery replacementCredential replacementRecovery : Secret} :
    SessionsKept digest
      (entries ++ [entryOf digest lab
        (.recover username recovery replacementCredential replacementRecovery)])
      (perform digest lab
        (.recover username recovery replacementCredential replacementRecovery)).lab := by
  simp only [entryOf, perform, IdentitySessionLab.recover]
  have quiet : ∀ disposition, disposition ≠ .recovered → SessionsKept digest
      (entries ++ [{ before := lab, answer := lab.refuse disposition
                     input := .recover username recovery replacementCredential
                       replacementRecovery }]) lab := by
    intro disposition other
    refine kept.quiet rfl rfl rfl ?_ (fun _ => rfl)
    rintro owner sessionId ⟨-, same⟩
    exact other (Option.some.inj same)
  cases named : canonicalAccountId username with
  | none => exact quiet _ (by decide)
  | some accountId =>
      simp only
      cases known : lab.account accountId with
      | none => exact quiet _ (by decide)
      | some account =>
          simp only
          split_ifs with wrong
          · exact quiet _ (by decide)
          · refine kept.revoke rfl rfl rfl ?_ (fun _ => rfl)
            intro other sessionId different ended
            exact different (Option.some.inj (ended.1.symm.trans named))

/-- What enrolling, lobbies and presence leave alone. -/
theorem perform_aside {operation : Operation}
    (aside : (∃ username credential recovery, operation = .enroll username credential recovery) ∨
      (∃ ownerId invite nowMs, operation = .createLobby ownerId invite nowMs) ∨
      (∃ peerId invite nowMs, operation = .redeemInvite peerId invite nowMs) ∨
      ∃ accountId present, operation = .setPresence accountId present) :
    (perform digest lab operation).lab.sessions = lab.sessions ∧
      (perform digest lab operation).lab.nextSessionId = lab.nextSessionId ∧
      (perform digest lab operation).sessionId = none := by
  rcases aside with ⟨username, credential, recovery, rfl⟩ | ⟨ownerId, invite, nowMs, rfl⟩ |
    ⟨peerId, invite, nowMs, rfl⟩ | ⟨accountId, present, rfl⟩
  · simp only [perform, enroll]
    split
    · exact ⟨rfl, rfl, rfl⟩
    · split <;> split <;> exact ⟨rfl, rfl, rfl⟩
  · simp only [perform, createLobby]
    split <;> exact ⟨rfl, rfl, rfl⟩
  · simp only [perform, redeemInvite]
    split
    · exact ⟨rfl, rfl, rfl⟩
    · split
      · exact ⟨rfl, rfl, rfl⟩
      · split <;> exact ⟨rfl, rfl, rfl⟩
  · simp only [perform, setPresence]
    split
    · exact ⟨rfl, rfl, rfl⟩
    · split <;> exact ⟨rfl, rfl, rfl⟩

theorem SessionsKept.step (kept : SessionsKept digest entries lab) (operation : Operation) :
    SessionsKept digest (entries ++ [entryOf digest lab operation])
      (perform digest lab operation).lab := by
  cases operation with
  | enroll username credential recovery =>
      obtain ⟨sessions, numbered, silent⟩ :=
        @perform_aside _ digest _ lab _ (Or.inl ⟨username, credential, recovery, rfl⟩)
      exact kept.aside sessions numbered silent (fun _ _ ended => ended) (fun _ => rfl)
  | authenticate username credential lobbyId nowMs secret => exact kept.authenticate
  | useSession used bearer accountId lobbyId nowMs => exact kept.useSession
  | logout used bearer => exact kept.logout
  | rotateCredential username current replacement => exact kept.rotateCredential
  | recover username recovery credential replacement => exact kept.recover
  | revokeAccountSessions accountId =>
      refine kept.revoke rfl rfl rfl ?_ (fun _ => rfl)
      intro other sessionId different ended
      exact different ended.symm
  | createLobby ownerId invite nowMs =>
      obtain ⟨sessions, numbered, silent⟩ :=
        @perform_aside _ digest _ lab _ (Or.inr (Or.inl ⟨ownerId, invite, nowMs, rfl⟩))
      exact kept.aside sessions numbered silent (fun _ _ ended => ended) (fun _ => rfl)
  | redeemInvite peerId invite nowMs =>
      obtain ⟨sessions, numbered, silent⟩ :=
        @perform_aside _ digest _ lab _ (Or.inr (Or.inr (Or.inl ⟨peerId, invite, nowMs, rfl⟩)))
      exact kept.aside sessions numbered silent (fun _ _ ended => ended) (fun _ => rfl)
  | setPresence accountId present =>
      obtain ⟨sessions, numbered, silent⟩ :=
        @perform_aside _ digest _ lab _ (Or.inr (Or.inr (Or.inr ⟨accountId, present, rfl⟩)))
      exact kept.aside sessions numbered silent (fun _ _ ended => ended) (fun _ => rfl)

/-- A use that is found valid is lawful. -/
theorem lawfulUse_of_valid (kept : SessionsKept digest entries lab)
    (injective : Function.Injective digest) {sessionId : String} {bearer : Secret}
    {accountId lobbyId : String} {nowMs : Nat}
    (valid : (lab.useSession digest sessionId bearer accountId lobbyId nowMs).disposition =
      some .sessionValid) : LawfulUse entries sessionId bearer accountId lobbyId nowMs := by
  have effect := @useSession_effect _ digest _ lab sessionId accountId lobbyId bearer nowMs
  generalize lab.useSession digest sessionId bearer accountId lobbyId nowMs = reply at effect valid
  cases effect with
  | rejected => cases valid
  | expired stored expiry =>
      rcases expiry with rfl | rfl <;> cases valid
  | valid stored standing owner lobby proven absolute idle =>
      obtain ⟨before, issue, since, secret, rfl, issues, same, quiet, used⟩ :=
        kept.standing _ _ stored standing
      have equal : bearer = secret := by
        have bytes := injective (proven.trans same.symm)
        cases bearer
        cases secret
        cases bytes
        rfl
      subst owner lobby equal
      exact ⟨before, issue, since, _, rfl, issues, quiet, absolute, used ▸ idle⟩

end Operations

end Security
end Revenant
