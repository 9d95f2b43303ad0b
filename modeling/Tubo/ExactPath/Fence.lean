import Tubo.ExactPath.Contract

/-!
# Revocation fences the exact path

If an authorization reads the epoch after a revocation raised it, and still
succeeds, then the invite behind its lease was minted from an epoch read after
that revocation.

Nothing in the code connects these events directly: each operation reads the
epoch, checks and mints in separate steps.  Two facts carry the argument.
Credentials hand the epoch on unchanged, which is the contract of the exact
path, and the stored epoch never decreases along a history (`Store.Grows`).  An
invite read before the revocation would therefore carry an epoch below the one
the authorization read.
-/

namespace Tubo

open Concurrency

variable (prim : Primitives)

/-! ## The fence -/

section Fence

variable {start : Store} {pool : AccessPool}
  (reachable : (accessSystem prim).Reachable start pool)

include reachable in
/-- An invite whose epoch has reached what a revocation stored was minted from
an epoch read after that revocation. -/
theorem mintedAfter_of_raised {i : ℕ} {revocation : AccessEvent}
    {pipeID : GoString} {epoch : ℕ} {now : Time} {invite : ExactInvite}
    (atRevoke : pool.history[i]? = some revocation) (isRevoke : revocation.action =
      .ran (.revoke pipeID pipeAccess pipeID epoch now) (.ok ()))
    (raised : revocation.before.revocationEpoch pipeID pipeAccess pipeID <
      revocation.after.revocationEpoch pipeID pipeAccess pipeID)
    (issued : Issued pool.history invite) (samePipe : invite.audiencePipeID = pipeID)
    (reached : revocation.after.revocationEpoch pipeID pipeAccess pipeID ≤ invite.accessEpoch) :
    AccessWorld.MintedAfter pool.toWorld i invite := by
  have ordered := reachable.ordered Store.Grows.refl Store.Grows.trans
    fun _ _ _ _ effect => StoreExec.grows effect
  refine ⟨issued, ?_⟩
  intro event member result isReturn sameContent
  have sameEpoch : result.minted.accessEpoch = invite.accessEpoch := by
    rw [← sameContent]
  have sameAudience : result.minted.audiencePipeID = invite.audiencePipeID := by
    rw [← sameContent]
  obtain ⟨onlyRead, epochRead⟩ := shared_reads prim reachable member isReturn
  rw [sameEpoch, sameAudience] at onlyRead epochRead
  refine ⟨?_, ?_⟩
  · obtain ⟨read, readMember, sameThread, isRead, -⟩ :=
      reachable.exec_of_exchange epochRead
    obtain ⟨k, atRead⟩ := List.mem_iff_getElem?.mp readMember
    exact ⟨k, read, atRead, sameThread, isRead⟩
  · rintro k readPipe readEpoch ⟨read, atRead, sameThread, isRead⟩
    have readMember := List.mem_of_getElem? atRead
    have asked := mem_exchangesOf_of_ran readMember isRead
    rw [sameThread] at asked
    obtain ⟨rfl, rfl⟩ := onlyRead _ _ _ _ asked
    refine ⟨?_, rfl, rfl⟩
    obtain ⟨value, unchanged⟩ :=
      (reachable.exec_of_mem readMember isRead).revocationEpoch_ok
    rcases Nat.lt_trichotomy k i with before | same | after
    · -- The stored epoch was then at least the epoch of the invite already
      -- before the revocation.
      have bound := (ordered.at_index atRead atRevoke before).revocationEpoch_le
        invite.audiencePipeID pipeAccess invite.audiencePipeID
      rw [unchanged, value, samePipe] at bound
      omega
    · grind
    · exact after

end Fence

/-- **Revocation fences the exact path.**  Take any interleaving of shares,
redemptions, renewals, revocations and authorizations from a database without
accepted relationships, and in it a `Revoke` that raised the pipe-access epoch
of a Pipe.  If an authorization reads that epoch afterwards and still succeeds,
then the lease it was given was returned by the system, every thread that
returned it has an invite from which it descends, and every such invite was
minted from an epoch read after the revocation committed. -/
theorem exactPath_fenced {start : Store} {pool : AccessPool}
    (noRelationships : start.acceptedExactRelationships = ∅)
    (reachable : (accessSystem prim).Reachable start pool)
    {i j : ℕ} {revocation read decision : AccessEvent}
    {pipeID served : GoString} {epoch seen : ℕ} {now : Time}
    {leasePublic : Bytes} {req : OpenRequest} {authorization : Authorization}
    (atRevoke : pool.history[i]? = some revocation) (isRevoke : revocation.action =
      .ran (.revoke pipeID pipeAccess pipeID epoch now) (.ok ()))
    (raised : revocation.before.revocationEpoch pipeID pipeAccess pipeID <
      revocation.after.revocationEpoch pipeID pipeAccess pipeID)
    (atRead : pool.history[j]? = some read) (later : i < j) (isRead : read.action =
      .ran (.revocationEpoch pipeID pipeAccess pipeID) (.ok seen))
    (authorizes : pool.toWorld.Runs read.thread (.authorize leasePublic served req))
    (decided : decision ∈ pool.history) (sameThread : decision.thread = read.thread)
    (succeeded : decision.action = .returned (.ok (.authorized authorization))) :
    ∃ lease, decodeLease prim req.accessLease = .ok lease ∧ Leased pool.history lease ∧
      ∀ event ∈ pool.history, ∀ minted, event.action = .returned (.ok (.leased minted)) →
        lease.SameContent minted →
        (∃ invite, AccessWorld.Descends prim pool.toWorld event.thread invite) ∧
        ∀ invite, AccessWorld.Descends prim pool.toWorld event.thread invite →
          AccessWorld.MintedAfter pool.toWorld i invite := by
  have ordered := reachable.ordered Store.Grows.refl Store.Grows.trans
    fun _ _ _ _ effect => StoreExec.grows effect
  -- What the authorization read and checked.
  obtain ⟨call, runs, owes⟩ := returned_owes prim reachable decided succeeded
  rw [sameThread] at runs owes
  obtain rfl := reachable.runs_unique runs authorizes
  obtain ⟨lease, current, presented, -, reached, exchanges⟩ := owes
  have leased := presented_leased prim reachable runs presented
  have readMember := List.mem_of_getElem? atRead
  have asked := mem_exchangesOf_of_ran readMember isRead
  rw [exchanges] at asked
  obtain ⟨⟨rfl, rfl⟩, rfl⟩ : (pipeID = served ∧ pipeID = req.pipeID) ∧ seen = current := by
    simpa using asked
  -- The revocation stored at most the epoch of the lease.
  have revoked := (reachable.exec_of_mem (List.mem_of_getElem? atRevoke) isRevoke).revoke_ok
  have named : req.pipeID ≠ [] := by
    intro empty
    have given := (Store.revoke_arguments revoked).1
    rw [empty] at given
    cases given
  have value :=
    (reachable.exec_of_mem readMember isRead).revocationEpoch_ok.1
  have stored := (ordered.at_index atRevoke atRead later).revocationEpoch_le
    req.pipeID pipeAccess req.pipeID
  rw [value] at stored
  refine ⟨lease, presented.decoded, leased, ?_⟩
  intro event member minted isReturn sameContent
  obtain ⟨descends, origins⟩ :=
    leased_descends prim reachable noRelationships member isReturn
  refine ⟨descends, ?_⟩
  intro invite origin
  obtain ⟨issued, sameEpoch, samePipe⟩ := origins invite origin
  have audience : minted.audiencePipeID = req.pipeID := by
    rw [← sameContent]
    exact presented.authentic.audience named
  have leaseEpoch : minted.accessEpoch = lease.accessEpoch := by
    rw [← sameContent]
  refine mintedAfter_of_raised prim reachable atRevoke isRevoke
    raised issued (samePipe.trans audience) ?_
  grind

/-! ## A run

One Pipe with toy primitives: a key signs by showing itself, and the text of a
credential carries only its epoch. -/

def dawn : Time := ⟨1, 0⟩
def ownerSecret : Bytes := List.replicate 64 1
def authoritySecret : Bytes := List.replicate 64 2
def recipientSecret : Bytes := List.replicate 64 3

def plainPublic (secret : Bytes) : GoString :=
  rawURLEncode (secret.take 32)

def plainPipeID : GoString :=
  str "pip_" ++ toLowerASCII (base32Encode (List.replicate 20 1))

def plainText (epoch : ℕ) : GoString :=
  rawURLEncode [UInt8.ofNat epoch]

def plainBinding (epoch : ℕ) : OwnerBinding :=
  { version := credentialVersion, type := ownerBindingType,
    owner := plainPublic ownerSecret,
    authorityKey := plainPublic authoritySecret, pipeID := plainPipeID,
    redemptionPeers := str "peer", redemptionProtocol := str "redeem", epoch,
    signature := rawURLEncode ownerSecret }

def plainInvite (epoch : ℕ) : ExactInvite :=
  { version := credentialVersion, type := inviteType,
    issuer := plainPublic authoritySecret, audiencePipeID := plainPipeID,
    binding := plainText epoch,
    jti := str "jti_" ++ base32Encode [UInt8.ofNat epoch],
    issuedAt := dawn, notBefore := dawn, expiresAt := dawn.add defaultInviteTTL,
    accessEpoch := epoch, oneTime := true,
    signature := rawURLEncode authoritySecret }

def plainLease (epoch : ℕ) : AccessLease :=
  { version := credentialVersion, type := accessLeaseType,
    issuer := plainPublic authoritySecret,
    subject := plainPublic recipientSecret, audiencePipeID := plainPipeID,
    jti := str "jti_", issuedAt := dawn, notBefore := dawn,
    expiresAt := dawn.add maxTTL, accessEpoch := epoch,
    signature := rawURLEncode authoritySecret }

def plainRead {α : Type} (record : ℕ → α) : Bytes → Except GoError α
  | [epoch] => .ok (record epoch.toNat)
  | _ => .error errStrict

def plain : Primitives where
  publicKey secret := secret.take 32
  sign secret _ := secret
  verify key _ signature := signature == key ++ key
  sha256 := id
  leaseBody _ := .ok []
  bindingBody _ := .ok []
  inviteBody _ := .ok []
  marshalLease lease := .ok [UInt8.ofNat lease.accessEpoch]
  marshalBinding binding := .ok [UInt8.ofNat binding.epoch]
  marshalInvite invite := .ok [UInt8.ofNat invite.accessEpoch]
  unmarshalLease := plainRead plainLease
  unmarshalBinding := plainRead plainBinding
  unmarshalInvite := plainRead plainInvite

def plainSpec : PipeSpec :=
  { ref := ⟨.pipe, str "web"⟩, pipeID := plainPipeID, scope := none,
    ingress := ⟨.tubo, [], [], [], []⟩, target := ⟨.service, str "web"⟩,
    visibility := .unlisted, access := .inviteOnly, allowReexport := false,
    createdAt := dawn, updatedAt := dawn }

def plainStore : Store :=
  { pipes := (∅ : Table GoString PipeRow).insert (str "pipe/web")
      ⟨plainPipeID, plainSpec, str "owner.key", []⟩ }

def plainShare (epoch : ℕ) : ShareRequest :=
  { pipeRef := str "pipe/web", secrets := str "secrets",
    ownerKeyFile := fun _ => .ok ownerSecret,
    locateOwner := fun _ => .ok (str "peer"),
    redemptionProtocol := str "redeem",
    provisionKeyFile := fun _ => .ok authoritySecret, now := dawn,
    random := .ok [UInt8.ofNat epoch] }

def plainRedeem (epoch : ℕ) : RedeemRequest :=
  { now := dawn, clock := dawn, encodedInvite := plainText epoch,
    recipientPublic := plainPublic recipientSecret, serverChallenge := str "c",
    challengeProof := rawURLEncode recipientSecret,
    keyFile := .ok authoritySecret, leaseLifetime := 0, sessionRandom := .ok [],
    leaseRandom := .ok [] }

def plainOpen (epoch : ℕ) : OpenRequest :=
  { pipeID := plainPipeID, clientPublic := plainPublic recipientSecret,
    challenge := str "c", challengeProof := rawURLEncode recipientSecret,
    accessLease := plainText epoch, now := dawn, clock := dawn }

/-- A revocation raises the epoch to 1; then the Pipe is shared again, the
invite redeemed and the lease presented. -/
def resharedPool : AccessPool :=
  play (accessSystem plain) Store.execute
    [.spawn (.revoke plainPipeID pipeAccess plainPipeID 1 dawn), .move 0, .move 0,
      .spawn (.share (plainShare 1)), .move 1, .move 1, .move 1,
      .spawn (.redeem (str "secrets") plainPipeID (plainRedeem 1)),
      .move 2, .move 2, .move 2, .move 2,
      .spawn (.authorize (authoritySecret.take 32) plainPipeID (plainOpen 1)),
      .move 3, .move 3, .move 3]
    (Pool.start plainStore)

theorem resharedPool_reachable : (accessSystem plain).Reachable plainStore resharedPool := by
  refine play_reachable storeExec_execute (System.Reachable.start _)
    ⟨trivial, trivial, ?_, ?_, trivial⟩
  · intro invite decoded _ _
    obtain rfl : plainInvite 1 = invite := Except.ok.inj decoded
    exact ⟨_, List.mem_of_getElem? (i := 6) rfl, _, rfl, rfl⟩
  · intro lease decoded _
    obtain rfl : plainLease 1 = lease := Except.ok.inj decoded
    exact ⟨_, List.mem_of_getElem? (i := 11) rfl, _, rfl, rfl⟩

theorem exactPath_fenced_reshared :
    ∃ lease, decodeLease plain (plainOpen 1).accessLease = .ok lease ∧
      Leased resharedPool.history lease ∧
      ∀ event ∈ resharedPool.history, ∀ minted, event.action = .returned (.ok (.leased minted)) →
        lease.SameContent minted →
        (∃ invite, AccessWorld.Descends plain resharedPool.toWorld event.thread invite) ∧
        ∀ invite, AccessWorld.Descends plain resharedPool.toWorld event.thread invite →
          AccessWorld.MintedAfter resharedPool.toWorld 1 invite :=
  exactPath_fenced plain rfl resharedPool_reachable (i := 1) (j := 14)
    rfl rfl (by decide) rfl (by decide) rfl
    ⟨_, List.mem_of_getElem? (i := 12) rfl, rfl, rfl⟩
    (List.mem_of_getElem? (i := 15) rfl) rfl rfl

end Tubo
