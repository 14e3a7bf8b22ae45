import Mathlib.Logic.Function.Basic
import Revenant.Library.Text
import Revenant.Library.Turns
import Revenant.Library.Words

namespace Revenant
namespace Security

open Library

/-!
# The identity and session laboratory

Two accounts, one stored session each, one lobby of two seats with an invite
that can be redeemed once, and a queue of failed proofs for every principal.
The laboratory keeps digests of its secrets; the digest is a parameter.
-/

def secretBytes : Nat := 32
def rateWindowMs : Nat := 60000
def rateFailureLimit : Nat := 5
def sessionIdleMs : Nat := 600000
def sessionAbsoluteMs : Nat := 1800000
def inviteLifetimeMs : Nat := 600000
def theLobbyId : String := "local-lobby-1"
def unknownPrincipal : String := "unknown-principal"

structure Secret where
  bytes : List UInt8
  size : bytes.length = secretBytes
  deriving DecidableEq

inductive Disposition where
  | invalidInput
  | enrolled
  | replayed
  | conflict
  | authenticationFailed
  | rateLimited
  | authenticated
  | sessionValid
  | sessionRejected
  | expiredIdle
  | expiredAbsolute
  | revoked
  | rotated
  | recovered
  | lobbyCreated
  | inviteRedeemed
  | inviteRejected
  | presenceUpdated
  | presenceRejected
  deriving DecidableEq, Repr

structure AccountRecord (Digest : Type) where
  canonicalId : String
  displayName : String
  credential : Digest
  recovery : Digest
  generation : Nat

structure SessionRecord (Digest : Type) where
  accountId : String
  lobbyId : String
  bearer : Digest
  issuedAtMs : Nat
  lastUsedAtMs : Nat
  revoked : Bool

structure InviteRecord (Digest : Type) where
  bearer : Digest
  expiresAtMs : Nat
  redeemedBy : Option String

structure LobbyRecord (Digest : Type) where
  id : String
  ownerId : String
  members : List (String × Bool)
  invite : InviteRecord Digest

/-- Sessions and failures are tables by identifier; a principal without an
entry has no failure. -/
@[ext]
structure IdentitySessionLab (Digest : Type) where
  accounts : List (AccountRecord Digest)
  sessions : String → Option (SessionRecord Digest)
  failures : String → List Nat
  lobby : Option (LobbyRecord Digest)
  nextSessionId : Nat
  protectedMutations : Nat

/-- What an operation answers, and the laboratory it leaves. -/
structure Reply (Digest : Type) where
  disposition : Option Disposition
  sessionId : Option String
  lab : IdentitySessionLab Digest

/-- Counters wrap at 64 bits. -/
def wrappingSucc (counter : Nat) : Nat := (counter + 1) % (u64Max + 1)

/-- ASCII letters, digits, `_`, `.` and `-`, at most 32 of them. -/
def canonicalAccountId (username : String) : Option String :=
  if username = "" ∨ username.utf8ByteSize > 32 ∨
      username.toList.any (fun letter =>
        !(letter.isAlphanum || decide (letter ∈ ['_', '.', '-']))) = true then none
  else some ("local:" ++ username.toLower)

def sessionName (number : Nat) : String := "session-" ++ Nat.repr number

theorem sessionName_inj {first second : Nat} (same : sessionName first = sessionName second) :
    first = second := by
  have letters := congrArg String.toList same
  rw [sessionName, sessionName, String.toList_append, String.toList_append,
    List.append_cancel_left_eq] at letters
  have left : Text.parseUnsigned (first + second) (Nat.repr first).toList = some first :=
    Text.parseUnsigned_repr (Nat.le_add_right _ _)
  have right : Text.parseUnsigned (first + second) (Nat.repr second).toList = some second :=
    Text.parseUnsigned_repr (Nat.le_add_left _ _)
  rw [letters, right] at left
  exact (Option.some.inj left).symm

namespace IdentitySessionLab

variable {Digest : Type} [DecidableEq Digest] (digest : List UInt8 → Digest)

def default : IdentitySessionLab Digest :=
  { accounts := [], sessions := fun _ => none, failures := fun _ => [], lobby := none
    nextSessionId := 0, protectedMutations := 0 }

def verifierMatches (verifier : Digest) (candidate : List UInt8) : Bool :=
  decide (candidate.length = secretBytes) && decide (digest candidate = verifier)

/-- The answer of an operation that leaves the laboratory alone. -/
def refuse (lab : IdentitySessionLab Digest) (disposition : Disposition) : Reply Digest :=
  { disposition := some disposition, sessionId := none, lab }

/-- The answer of a protected mutation. -/
def mutate (lab : IdentitySessionLab Digest) (disposition : Disposition) : Reply Digest :=
  { disposition := some disposition, sessionId := none
    lab := { lab with protectedMutations := wrappingSucc lab.protectedMutations } }

def account (lab : IdentitySessionLab Digest) (canonicalId : String) :
    Option (AccountRecord Digest) :=
  lab.accounts.find? (fun account => account.canonicalId = canonicalId)

def enroll (lab : IdentitySessionLab Digest) (username : String) (credential recovery : Secret) :
    Reply Digest :=
  match canonicalAccountId username with
  | none => lab.refuse .invalidInput
  | some canonicalId =>
      match lab.account canonicalId with
      | some existing =>
          if existing.displayName = username ∧
              verifierMatches digest existing.credential credential.bytes = true ∧
              verifierMatches digest existing.recovery recovery.bytes = true then
            lab.refuse .replayed
          else lab.refuse .conflict
      | none =>
          if lab.accounts.length ≥ 2 then lab.refuse .conflict
          else
            mutate { lab with
              accounts := lab.accounts ++
                [{ canonicalId, displayName := username, credential := digest credential.bytes
                   recovery := digest recovery.bytes, generation := 1 }] } .enrolled

/-- The principal under which the failures of a name are kept. -/
def failureKey (lab : IdentitySessionLab Digest) (accountId : String) : String :=
  if (lab.account accountId).isSome then accountId else unknownPrincipal

def withFailures (lab : IdentitySessionLab Digest) (principal : String) (failures : List Nat) :
    IdentitySessionLab Digest :=
  { lab with failures := Function.update lab.failures principal failures }

/-- Failures at least a window old are dropped from the front. -/
def retained (nowMs : Nat) (failures : List Nat) : List Nat :=
  failures.dropWhile (fun oldest => decide (rateWindowMs ≤ nowMs - oldest))

def admitted (lab : IdentitySessionLab Digest) (accountId lobbyId : String) : Prop :=
  ∃ lobby ∈ lab.lobby, lobby.id = lobbyId ∧ ∃ member ∈ lobby.members, member.1 = accountId

instance (lab : IdentitySessionLab Digest) (accountId lobbyId : String) :
    Decidable (lab.admitted accountId lobbyId) := by
  unfold admitted
  infer_instance

/-- The session replaces every other one of its account. -/
def issue (lab : IdentitySessionLab Digest) (accountId lobbyId : String) (nowMs : Nat)
    (sessionSecret : Secret) : IdentitySessionLab Digest :=
  { lab with
    nextSessionId := lab.nextSessionId + 1
    sessions := Function.update
      (fun id => (lab.sessions id).filter (fun session => session.accountId ≠ accountId))
      (sessionName (lab.nextSessionId + 1))
      (some { accountId, lobbyId, bearer := digest sessionSecret.bytes, issuedAtMs := nowMs
              lastUsedAtMs := nowMs, revoked := false })
    protectedMutations := wrappingSucc lab.protectedMutations }

def authenticate (lab : IdentitySessionLab Digest) (username : String) (credential : List UInt8)
    (lobbyId : String) (nowMs : Nat) (sessionSecret : Secret) : Reply Digest :=
  match canonicalAccountId username with
  | none => lab.refuse .invalidInput
  | some accountId =>
      let principal := lab.failureKey accountId
      let failures := retained nowMs (lab.failures principal)
      if failures.length ≥ rateFailureLimit then
        (lab.withFailures principal failures).refuse .rateLimited
      else if (lab.account accountId).any (fun account =>
          verifierMatches digest account.credential credential) = false then
        (lab.withFailures principal (failures ++ [nowMs])).refuse .authenticationFailed
      else if ¬ lab.admitted accountId lobbyId then
        (lab.withFailures principal failures).refuse .sessionRejected
      else if lab.nextSessionId + 1 > u64Max then
        (lab.withFailures principal []).refuse .conflict
      else
        { disposition := some .authenticated
          sessionId := some (sessionName (lab.nextSessionId + 1))
          lab := (lab.withFailures principal []).issue digest accountId lobbyId nowMs sessionSecret }

def withSession (lab : IdentitySessionLab Digest) (sessionId : String)
    (session : SessionRecord Digest) : IdentitySessionLab Digest :=
  { lab with sessions := Function.update lab.sessions sessionId (some session) }

def useSession (lab : IdentitySessionLab Digest) (sessionId : String) (bearer : Secret)
    (accountId lobbyId : String) (nowMs : Nat) : Reply Digest :=
  match lab.sessions sessionId with
  | none => lab.refuse .sessionRejected
  | some session =>
      if session.revoked = true ∨ session.accountId ≠ accountId ∨ session.lobbyId ≠ lobbyId ∨
          verifierMatches digest session.bearer bearer.bytes = false then
        lab.refuse .sessionRejected
      else if nowMs - session.issuedAtMs > sessionAbsoluteMs then
        mutate (lab.withSession sessionId { session with revoked := true }) .expiredAbsolute
      else if nowMs - session.lastUsedAtMs > sessionIdleMs then
        mutate (lab.withSession sessionId { session with revoked := true }) .expiredIdle
      else
        mutate (lab.withSession sessionId { session with lastUsedAtMs := nowMs }) .sessionValid

def logout (lab : IdentitySessionLab Digest) (sessionId : String) (bearer : Secret) :
    Reply Digest :=
  match lab.sessions sessionId with
  | none => lab.refuse .sessionRejected
  | some session =>
      if session.revoked = true ∨ verifierMatches digest session.bearer bearer.bytes = false then
        lab.refuse .sessionRejected
      else mutate (lab.withSession sessionId { session with revoked := true }) .revoked

def revokeAccountSessions (lab : IdentitySessionLab Digest) (accountId : String) :
    IdentitySessionLab Digest :=
  { lab with
    sessions := fun id => (lab.sessions id).map (fun session =>
      if session.accountId = accountId then { session with revoked := true } else session) }

/-- Writes one account's record. -/
def withAccount (lab : IdentitySessionLab Digest) (account : AccountRecord Digest) :
    IdentitySessionLab Digest :=
  { lab with
    accounts := lab.accounts.map (fun old =>
      if old.canonicalId = account.canonicalId then account else old) }

def rotateCredential (lab : IdentitySessionLab Digest) (username : String)
    (current replacement : Secret) : Reply Digest :=
  match canonicalAccountId username with
  | none => lab.refuse .invalidInput
  | some accountId =>
      match lab.account accountId with
      | none => lab.refuse .authenticationFailed
      | some account =>
          if verifierMatches digest account.credential current.bytes = false then
            lab.refuse .authenticationFailed
          else
            mutate ((lab.withAccount { account with
              credential := digest replacement.bytes
              generation := wrappingSucc account.generation }).revokeAccountSessions accountId)
              .rotated

def recover (lab : IdentitySessionLab Digest) (username : String)
    (recovery replacementCredential replacementRecovery : Secret) : Reply Digest :=
  match canonicalAccountId username with
  | none => lab.refuse .invalidInput
  | some accountId =>
      match lab.account accountId with
      | none => lab.refuse .authenticationFailed
      | some account =>
          if verifierMatches digest account.recovery recovery.bytes = false then
            lab.refuse .authenticationFailed
          else
            mutate ((lab.withAccount { account with
              credential := digest replacementCredential.bytes
              recovery := digest replacementRecovery.bytes
              generation := wrappingSucc account.generation }).revokeAccountSessions accountId)
              .recovered

def createLobby (lab : IdentitySessionLab Digest) (ownerId : String) (invite : Secret)
    (nowMs : Nat) : Reply Digest :=
  if lab.lobby.isSome ∨ (lab.account ownerId).isNone then lab.refuse .conflict
  else
    mutate { lab with
      lobby := some
        { id := theLobbyId, ownerId, members := [(ownerId, true)]
          invite := { bearer := digest invite.bytes
                      expiresAtMs := saturatingAdd nowMs inviteLifetimeMs, redeemedBy := none } } }
      .lobbyCreated

/-- Seats a member, or marks a seated one. -/
def seat (members : List (String × Bool)) (accountId : String) (present : Bool) :
    List (String × Bool) :=
  if ∃ member ∈ members, member.1 = accountId then
    members.map (fun member => if member.1 = accountId then (accountId, present) else member)
  else members ++ [(accountId, present)]

def redeemInvite (lab : IdentitySessionLab Digest) (peerId : String) (invite : Secret)
    (nowMs : Nat) : Reply Digest :=
  if (lab.account peerId).isNone then lab.refuse .inviteRejected
  else
    match lab.lobby with
    | none => lab.refuse .inviteRejected
    | some lobby =>
        if nowMs > lobby.invite.expiresAtMs ∨ lobby.invite.redeemedBy.isSome ∨
            verifierMatches digest lobby.invite.bearer invite.bytes = false ∨
            lobby.members.length ≥ 2 then
          lab.refuse .inviteRejected
        else
          mutate { lab with
            lobby := some { lobby with
              members := seat lobby.members peerId true
              invite := { lobby.invite with redeemedBy := some peerId } } } .inviteRedeemed

def setPresence (lab : IdentitySessionLab Digest) (accountId : String) (present : Bool) :
    Reply Digest :=
  match lab.lobby with
  | none => lab.refuse .presenceRejected
  | some lobby =>
      if ∃ member ∈ lobby.members, member.1 = accountId then
        mutate { lab with
          lobby := some { lobby with members := seat lobby.members accountId present } }
          .presenceUpdated
      else lab.refuse .presenceRejected

end IdentitySessionLab

/-! ## Sequences of operations -/

inductive Operation where
  | enroll (username : String) (credential recovery : Secret)
  | authenticate (username : String) (credential : List UInt8) (lobbyId : String) (nowMs : Nat)
      (sessionSecret : Secret)
  | useSession (sessionId : String) (bearer : Secret) (accountId lobbyId : String) (nowMs : Nat)
  | logout (sessionId : String) (bearer : Secret)
  | rotateCredential (username : String) (current replacement : Secret)
  | recover (username : String) (recovery replacementCredential replacementRecovery : Secret)
  | revokeAccountSessions (accountId : String)
  | createLobby (ownerId : String) (invite : Secret) (nowMs : Nat)
  | redeemInvite (peerId : String) (invite : Secret) (nowMs : Nat)
  | setPresence (accountId : String) (present : Bool)
  deriving DecidableEq

/-- The time an operation is given. -/
def Operation.nowMs : Operation → Option Nat
  | authenticate _ _ _ nowMs _ | useSession _ _ _ _ nowMs | createLobby _ _ nowMs
  | redeemInvite _ _ nowMs => some nowMs
  | _ => none

section Run

variable {Digest : Type} [DecidableEq Digest] (digest : List UInt8 → Digest)

def perform (lab : IdentitySessionLab Digest) : Operation → Reply Digest
  | .enroll username credential recovery => lab.enroll digest username credential recovery
  | .authenticate username credential lobbyId nowMs sessionSecret =>
      lab.authenticate digest username credential lobbyId nowMs sessionSecret
  | .useSession sessionId bearer accountId lobbyId nowMs =>
      lab.useSession digest sessionId bearer accountId lobbyId nowMs
  | .logout sessionId bearer => lab.logout digest sessionId bearer
  | .rotateCredential username current replacement =>
      lab.rotateCredential digest username current replacement
  | .recover username recovery replacementCredential replacementRecovery =>
      lab.recover digest username recovery replacementCredential replacementRecovery
  | .revokeAccountSessions accountId =>
      { disposition := none, sessionId := none, lab := lab.revokeAccountSessions accountId }
  | .createLobby ownerId invite nowMs => lab.createLobby digest ownerId invite nowMs
  | .redeemInvite peerId invite nowMs => lab.redeemInvite digest peerId invite nowMs
  | .setPresence accountId present => lab.setPresence accountId present

/-- Every operation answers. -/
def answer (lab : IdentitySessionLab Digest) (operation : Operation) :
    Except Empty (Reply Digest) :=
  .ok (perform digest lab operation)

/-- An operation with the laboratory it found and what it answered. -/
abbrev Entry (Digest : Type) : Type :=
  Turn (IdentitySessionLab Digest) Operation (Reply Digest)

def history (operations : List Operation) : List (Entry Digest) :=
  turns (answer digest) Reply.lab operations .default

def final (operations : List Operation) : IdentitySessionLab Digest :=
  reached (answer digest) Reply.lab operations .default

end Run

end Security
end Revenant
