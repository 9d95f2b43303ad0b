import Tubo.AccessLease.Sign

/-!
# The Access Lease

Package `internal/accesslease`, file `accesslease.go`: minting, signing,
verification and the textual form of the lease.

`AccessLease.Authentic` collects what a successful verification establishes;
it is the only fact about `verify` that the receiving side uses.
-/

namespace Tubo

variable (prim : Primitives)

namespace AccessLease

/-- `signingBody`. -/
def signingBody (l : AccessLease) : Except GoError Bytes := do
  let canonical ← prim.leaseBody l
  return accessLeaseSigningDomain ++ canonical

/-- `Sign`. -/
def sign (l : AccessLease) (secret : Bytes) : Except GoError AccessLease := do
  let stamped := { l with issuer := publicString (prim.publicKey secret) }
  let canonical ← stamped.signingBody prim
  return { stamped with signature := publicString (prim.sign secret canonical) }

/-- The instant a verification compares with: the given one, or the clock if
the caller gave the zero time. -/
def verificationTime (now clock : Time) : Time :=
  (if now.isZero then clock else now).utc

/-- `Verify`; `clock` is what `time.Now` would return. -/
def verify (l : AccessLease) (key : Bytes) (subject pipeID : GoString)
    (now clock : Time) : Except GoError Unit := do
  failIf (l.version ≠ credentialVersion ∨ l.type ≠ accessLeaseType)
    (errorsNew "accesslease: wrong kind or version")
  failIf (l.issuer ≠ publicString key ∨ ¬validString l.issuer ∨
      ¬validString l.subject ∨ ¬validString l.audiencePipeID ∨
      ¬validString l.jti ∨ ¬hasPrefix l.jti (str "jti_"))
    (errorsNew "accesslease: invalid identity or metadata")
  match publicFromString l.subject with
  | .error _ =>
    .error (errorsNew "accesslease: subject is not a canonical Ed25519 public key")
  | .ok _ => do
      failIf (maxPipeIDLen < l.audiencePipeID.length)
        (errorsNew "accesslease: pipe audience too long")
      failIf (l.issuedAt.isZero ∨ l.notBefore.isZero ∨ ¬l.expiresAt.after l.issuedAt)
        (errorsNew "accesslease: invalid lifetime")
      let now := verificationTime now clock
      failIf (l.issuedAt.after (now.add maxClockSkew))
        (errorsNew "accesslease: issued too far in future")
      failIf (l.notBefore.after (now.add maxClockSkew)) (errorsNew "accesslease: not yet valid")
      failIf (¬l.expiresAt.after now) (errorsNew "accesslease: expired")
      failIf (maxTTL < l.expiresAt.sub l.issuedAt) (errorsNew "accesslease: max TTL exceeded")
      failIf (subject ≠ [] ∧ l.subject ≠ subject) (errorsNew "accesslease: subject mismatch")
      failIf (pipeID ≠ [] ∧ l.audiencePipeID ≠ pipeID)
        (errorsNew "accesslease: pipe audience mismatch")
      let signature ← decodeSignature l.signature
      let canonical ← l.signingBody prim
      failIf (¬prim.verify key canonical signature) (errorsNew "accesslease: invalid signature")

/-- The key signed this lease: its signature text decodes to a signature that
verifies under the key over the canonical body in the lease domain. -/
def SignedBy (l : AccessLease) (key : Bytes) : Prop :=
  ∃ signature body, decodeSignature l.signature = .ok signature ∧ prim.leaseBody l = .ok body ∧
    prim.verify key (accessLeaseSigningDomain ++ body) signature = true

/-- What a successful verification establishes about a lease. -/
structure Authentic (l : AccessLease) (key : Bytes)
    (subject pipeID : GoString) (now clock : Time) : Prop where
  kind : l.version = credentialVersion ∧ l.type = accessLeaseType
  issuer : l.issuer = publicString key
  signed : l.SignedBy prim key
  subject : subject ≠ [] → l.subject = subject
  audience : pipeID ≠ [] → l.audiencePipeID = pipeID
  issued : l.issuedAt.instant ≤ (verificationTime now clock).instant + maxClockSkew
  unexpired : (verificationTime now clock).instant < l.expiresAt.instant

theorem verify_eq_ok {l : AccessLease} {key : Bytes} {subject pipeID : GoString} {now clock : Time}
    (verified : l.verify prim key subject pipeID now clock = .ok ()) :
    l.Authentic prim key subject pipeID now clock := by
  unfold verify at verified
  simp only [bind_eq_ok, failIf_eq_ok] at verified
  obtain ⟨-, kind, -, identity, verified⟩ := verified
  split at verified
  · cases verified
  · simp only [bind_eq_ok, failIf_eq_ok] at verified
    obtain ⟨-, -, -, -, -, issued, -, -, -, unexpired, -, -, -, subjectMatches,
      -, audienceMatches, signature, decoded, canonical, body, signed⟩ :=
      verified
    simp only [signingBody, bind_eq_ok, pure, Except.pure, Except.ok.injEq] at body
    obtain ⟨bytes, marshalled, rfl⟩ := body
    refine ⟨?_, ?_, ⟨signature, bytes, decoded, marshalled, ?_⟩, ?_, ?_, ?_, ?_⟩
    · tauto
    · tauto
    · simpa using signed
    · grind
    · grind
    · rw [Time.after_iff, Int.not_lt] at issued
      exact issued
    · grind [Time.after_iff]

end AccessLease

/-- `NewAccessLease`, on the random bytes of its identifier. -/
def newAccessLease (secret : Bytes) (subject pipeID : GoString) (now : Time)
    (lifetime : Duration) (accessEpoch : ℕ) (random : Except GoError Bytes) :
    Except GoError AccessLease := do
  failIf (¬validString subject ∨ ¬validString pipeID ∨ maxPipeIDLen < pipeID.length)
    (errorsNew "accesslease: invalid subject or pipe")
  match publicFromString subject with
  | .error _ =>
    .error (errorsNew "accesslease: subject is not a canonical Ed25519 public key")
  | .ok _ => do
      failIf (lifetime ≤ 0 ∨ maxTTL < lifetime)
        (errorsNew "accesslease: lifetime outside allowed window")
      let jti ← newJTI random
      let now := now.utc
      AccessLease.sign prim
        { version := credentialVersion, type := accessLeaseType,
          issuer := [], subject, audiencePipeID := pipeID, jti,
          issuedAt := now, notBefore := now, expiresAt := now.add lifetime,
          accessEpoch, signature := [] }
        secret

/-- A minted lease carries the epoch, the Pipe and the subject it was minted
for. -/
theorem newAccessLease_eq_ok {secret : Bytes} {subject pipeID : GoString}
    {now : Time} {lifetime : Duration} {accessEpoch : ℕ}
    {random : Except GoError Bytes} {lease : AccessLease}
    (minted : newAccessLease prim secret subject pipeID now lifetime accessEpoch
      random = .ok lease) :
    lease.accessEpoch = accessEpoch ∧ lease.audiencePipeID = pipeID ∧ lease.subject = subject := by
  unfold newAccessLease at minted
  simp only [bind_eq_ok, failIf_eq_ok] at minted
  obtain ⟨-, -, minted⟩ := minted
  split at minted
  · cases minted
  · simp only [bind_eq_ok, failIf_eq_ok, AccessLease.sign, pure, Except.pure,
      Except.ok.injEq] at minted
    grind

/-- `Encode`. -/
def encodeLease (l : AccessLease) : Except GoError GoString := do
  let data ← prim.marshalLease l
  encodeBounded data "accesslease: exceeds bounded field"

/-- `Decode`. -/
def decodeLease (encoded : GoString) : Except GoError AccessLease := do
  let data ← decodeStrict encoded
  prim.unmarshalLease data

end Tubo
