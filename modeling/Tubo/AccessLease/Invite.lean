import Tubo.AccessLease.Lease
import Tubo.AccessLease.Owner

/-!
# The exact invite

Package `internal/accesslease`, file `invite.go`.  An invite composes the owner
binding: verifying it proves that its issuer is the one key the owner of the
Pipe bound.
-/

namespace Tubo

variable (prim : Primitives)

namespace ExactInvite

/-- `signingBody`. -/
def signingBody (i : ExactInvite) : Except GoError Bytes := do
  let canonical ← prim.inviteBody i
  return exactInviteSigningDomain ++ canonical

/-- `Sign`. -/
def sign (i : ExactInvite) (secret : Bytes) : Except GoError ExactInvite := do
  let stamped := { i with issuer := publicString (prim.publicKey secret) }
  let canonical ← stamped.signingBody prim
  return { stamped with signature := publicString (prim.sign secret canonical) }

/-- The part of `Verify` before the embedded binding is read. -/
def verifyFields (i : ExactInvite) (now clock : Time) (pipeID : GoString) :
    Except GoError Unit := do
  failIf (i.version ≠ credentialVersion ∨ i.type ≠ inviteType)
    (errorsNew "accesslease: wrong invite kind or version")
  failIf (¬validString i.issuer ∨ ¬validString i.audiencePipeID ∨
      ¬validString i.jti ∨ ¬hasPrefix i.jti (str "jti_"))
    (errorsNew "accesslease: invalid invite identity or metadata")
  failIf (maxPipeIDLen < i.audiencePipeID.length)
    (errorsNew "accesslease: invite pipe audience too long")
  failIf (i.binding = [] ∨ maxBytes < i.binding.length)
    (errorsNew "accesslease: invite missing owner binding")
  failIf (¬i.oneTime) (errorsNew "accesslease: invite must be one-time")
  failIf (i.issuedAt.isZero ∨ i.notBefore.isZero ∨ ¬i.expiresAt.after i.issuedAt)
    (errorsNew "accesslease: invalid invite lifetime")
  let now := AccessLease.verificationTime now clock
  failIf (i.issuedAt.after (now.add maxClockSkew))
    (errorsNew "accesslease: invite issued too far in future")
  failIf (i.notBefore.after (now.add maxClockSkew)) (errorsNew "accesslease: invite not yet valid")
  failIf (¬i.expiresAt.after now) (errorsNew "accesslease: invite expired")
  failIf (maxTTL < i.expiresAt.sub i.issuedAt) (errorsNew "accesslease: invite max TTL exceeded")
  failIf (pipeID ≠ [] ∧ i.audiencePipeID ≠ pipeID)
    (errorsNew "accesslease: invite pipe audience mismatch")

/-- The composed owner binding of `Verify`: signed by the owner of the audience
Pipe, for that Pipe, and binding the issuer of the invite. -/
def verifyBinding (i : ExactInvite) : Except GoError Unit :=
  match decodeOwnerBinding prim i.binding with
  | .error _ =>
    .error (errorsNew "accesslease: invite has invalid owner binding")
  | .ok binding =>
    match binding.verifyOwnerBinding prim with
    | .error _ =>
      .error (errorsNew "accesslease: invite owner binding invalid")
    | .ok ownerPub => do
        failIf (¬verifyPipeOwner prim i.audiencePipeID ownerPub)
          (errorsNew "accesslease: invite owner is not the Pipe owner")
        failIf (binding.authorityKey ≠ i.issuer)
          (errorsNew "accesslease: invite issuer not bound by owner")
        failIf (binding.pipeID ≠ i.audiencePipeID)
          (errorsNew "accesslease: invite binding pipe mismatch")

/-- `Verify`; `clock` is what `time.Now` would return. -/
def verify (i : ExactInvite) (now clock : Time) (pipeID : GoString) : Except GoError Unit := do
  i.verifyFields now clock pipeID
  i.verifyBinding prim
  let signature ← decodeSignature i.signature
  let canonical ← i.signingBody prim
  let issuer ← publicFromString i.issuer
  failIf (¬prim.verify issuer canonical signature)
    (errorsNew "accesslease: invalid invite signature")

/-- What a successful verification establishes about an invite: its Pipe is the
one of its owner, its issuer is a public key, and the owner binding it carries is
bounded and names bounded redemption peers. -/
structure Verified (i : ExactInvite) : Prop where
  owned : ∃ owner, i.audiencePipeID = pipeIDFromOwner prim owner
  issuer : ∃ key, publicFromString i.issuer = .ok key
  issuerBound : i.issuer ≠ [] ∧ i.issuer.length ≤ maxFieldLen
  bindingBound : i.binding ≠ [] ∧ i.binding.length ≤ maxBytes
  peersBound : ∀ binding, decodeOwnerBinding prim i.binding = .ok binding →
    binding.redemptionPeers.length ≤ maxRedemptionAddrLen

theorem verifyBinding_eq_ok {i : ExactInvite} (verified : i.verifyBinding prim = .ok ()) :
    (∃ owner, i.audiencePipeID = pipeIDFromOwner prim owner) ∧
      ∀ binding, decodeOwnerBinding prim i.binding = .ok binding →
        binding.redemptionPeers.length ≤ maxRedemptionAddrLen := by
  unfold verifyBinding at verified
  split at verified
  · cases verified
  · rename_i binding decoded
    split at verified
    · cases verified
    · rename_i ownerPub signed
      simp only [bind_eq_ok, failIf_eq_ok, Classical.not_not] at verified
      obtain ⟨-, owned, -⟩ := verified
      refine ⟨⟨ownerPub, ?_⟩, ?_⟩
      · grind [verifyPipeOwner]
      · grind [bind_eq_ok, failIf_eq_ok, OwnerBinding.verifyOwnerBinding]

theorem verify_eq_ok {i : ExactInvite} {now clock : Time} {pipeID : GoString}
    (verified : i.verify prim now clock pipeID = .ok ()) : i.Verified prim := by
  unfold verify at verified
  simp only [bind_eq_ok, failIf_eq_ok] at verified
  obtain ⟨⟨⟩, fields, ⟨⟩, bound, -, -, -, -, issuer, parsed, -⟩ := verified
  obtain ⟨owned, peers⟩ := verifyBinding_eq_ok prim bound
  unfold verifyFields at fields
  simp only [bind_eq_ok, failIf_eq_ok, not_or, Classical.not_not] at fields
  obtain ⟨-, -, -, identity, -, -, -, binding, -⟩ := fields
  refine ⟨owned, ⟨issuer, parsed⟩, ?_, ?_, peers⟩
  · grind [validString]
  · exact ⟨binding.1, Nat.le_of_not_lt binding.2⟩

end ExactInvite

/-- `NewExactInvite`, on the random bytes of its identifier. -/
def newExactInvite (secret : Bytes) (binding : OwnerBinding)
    (pipeID : GoString) (now : Time) (lifetime : Duration) (accessEpoch : ℕ)
    (random : Except GoError Bytes) : Except GoError ExactInvite := do
  let bound ← binding.verifyOwnerAuthority prim (publicString (prim.publicKey secret))
  failIf (¬validString pipeID ∨ maxPipeIDLen < pipeID.length ∨ bound.pipeID ≠ pipeID)
    (errorsNew "accesslease: binding pipe mismatch")
  let bindingEncoded ← encodeOwnerBinding prim binding
  failIf (lifetime ≤ 0 ∨ maxTTL < lifetime)
    (errorsNew "accesslease: invite lifetime outside allowed window")
  let jti ← newJTI random
  let now := now.utc
  ExactInvite.sign prim
    { version := credentialVersion, type := inviteType, issuer := [],
      audiencePipeID := pipeID, binding := bindingEncoded, jti,
      issuedAt := now, notBefore := now, expiresAt := now.add lifetime,
      accessEpoch, oneTime := true, signature := [] }
    secret

/-- A minted invite carries the epoch and the Pipe it was minted for. -/
theorem newExactInvite_eq_ok {secret : Bytes} {binding : OwnerBinding}
    {pipeID : GoString} {now : Time} {lifetime : Duration} {accessEpoch : ℕ}
    {random : Except GoError Bytes} {invite : ExactInvite}
    (minted : newExactInvite prim secret binding pipeID now lifetime accessEpoch
      random = .ok invite) :
    invite.accessEpoch = accessEpoch ∧ invite.audiencePipeID = pipeID := by
  unfold newExactInvite at minted
  simp only [bind_eq_ok, failIf_eq_ok, ExactInvite.sign, pure, Except.pure,
    Except.ok.injEq] at minted
  grind

/-- `EncodeInvite`. -/
def encodeInvite (i : ExactInvite) : Except GoError GoString := do
  let data ← prim.marshalInvite i
  encodeBounded data "accesslease: invite exceeds bounded field"

/-- `DecodeInvite`. -/
def decodeInvite (encoded : GoString) : Except GoError ExactInvite := do
  let data ← decodeStrict encoded
  prim.unmarshalInvite data

end Tubo
