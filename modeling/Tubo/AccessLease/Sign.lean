import Tubo.Go.Encoding
import Tubo.Go.Time

/-!
# Credentials and their signatures

Package `internal/accesslease`, file `sign.go`, and the three credential
records: the Access Lease, the owner binding and the exact invite.

Ed25519, SHA-256 and `encoding/json` are not translated.  They enter as the
fields of `Primitives`, so every result below holds for whatever they compute;
a result that needs a property of them states it.  Everything the package
itself does around them — the bounds, the canonical base64 rule, the domain
separation, the order of the checks — is translated.
-/

namespace Tubo

/-! ## Bounds and discriminants -/

def credentialVersion : ℤ := 1
def accessLeaseType : GoString := str "pipe.open.access"
def inviteType : GoString := str "pipe.open.invite"
def ownerBindingType : GoString := str "exact.owner.binding"

def maxBytes : ℕ := 49152
def maxFieldLen : ℕ := 4096
def maxRedemptionAddrLen : ℕ := 1024
def maxRedemptionProtocolLen : ℕ := 128
def maxPipeIDLen : ℕ := 256
def maxRedemptionAddresses : ℕ := 8
def maxClockSkew : Duration := 30 * second
def maxTTL : Duration := 10 * minute

def ed25519PublicKeySize : ℕ := 32
def ed25519SignatureSize : ℕ := 64

def accessLeaseSigningDomain : GoString :=
  str "tubo://access-lease/v1" ++ [0]
def ownerBindingSigningDomain : GoString :=
  str "tubo://exact-owner-binding/v1" ++ [0]
def exactInviteSigningDomain : GoString :=
  str "tubo://exact-invite/v1" ++ [0]

def openProofPurpose : GoString := str "tubo-open-v2"
def redeemProofPurpose : GoString := str "tubo-exact-redeem-v2"
def renewProofPurpose : GoString := str "tubo-exact-renew-v2"

/-! ## Records -/

/-- The exact-Pipe Access Lease. -/
structure AccessLease where
  version : ℤ
  type : GoString
  issuer : GoString
  subject : GoString
  audiencePipeID : GoString
  jti : GoString
  issuedAt : Time
  notBefore : Time
  expiresAt : Time
  accessEpoch : ℕ
  signature : GoString
  deriving DecidableEq, Repr

/-- The owner-signed binding of one Exact Authority key to one Pipe. -/
structure OwnerBinding where
  version : ℤ
  type : GoString
  owner : GoString
  authorityKey : GoString
  pipeID : GoString
  redemptionPeers : GoString
  redemptionProtocol : GoString
  epoch : ℕ
  signature : GoString
  deriving DecidableEq, Repr

/-- The recipient-unbound redemption credential. -/
structure ExactInvite where
  version : ℤ
  type : GoString
  issuer : GoString
  audiencePipeID : GoString
  binding : GoString
  jti : GoString
  issuedAt : Time
  notBefore : Time
  expiresAt : Time
  accessEpoch : ℕ
  oneTime : Bool
  signature : GoString
  deriving DecidableEq, Repr

/-- The library functions credentials rest on.  A private key is given by its
bytes.  The `…Body` fields are `json.Marshal` of the signature-less form, the
`marshal…` fields `json.Marshal` of the whole record, and the `unmarshal…`
fields the strict reading of a JSON object: `scanFlatObject` with the
allow-list of the credential, then `json.Unmarshal`. -/
structure Primitives where
  publicKey : Bytes → Bytes
  sign : Bytes → Bytes → Bytes
  verify : Bytes → Bytes → Bytes → Bool
  sha256 : Bytes → Bytes
  leaseBody : AccessLease → Except GoError Bytes
  bindingBody : OwnerBinding → Except GoError Bytes
  inviteBody : ExactInvite → Except GoError Bytes
  marshalLease : AccessLease → Except GoError Bytes
  marshalBinding : OwnerBinding → Except GoError Bytes
  marshalInvite : ExactInvite → Except GoError Bytes
  unmarshalLease : Bytes → Except GoError AccessLease
  unmarshalBinding : Bytes → Except GoError OwnerBinding
  unmarshalInvite : Bytes → Except GoError ExactInvite

/-! ## Canonical text -/

/-- `decodeCanonicalRawBase64URL`. -/
def decodeCanonicalRawBase64URL (value : GoString) : Except GoError Bytes := do
  failIf (value = []) (errorsNew "accesslease: empty base64url value")
  failIf (containsAny value [0x0D, 0x0A, 0x09, 0x20])
    (errorsNew "accesslease: non-canonical base64url (whitespace)")
  failIf (value.contains 0x3D) (errorsNew "accesslease: padded base64url")
  match rawURLDecode value with
  | none => .error (errorsNew "accesslease: invalid base64url")
  | some data => do
      failIf (rawURLEncode data ≠ value) (errorsNew "accesslease: non-canonical base64url")
      return data

/-- What is decoded is the only text of its bytes. -/
theorem decodeCanonicalRawBase64URL_eq_ok {value : GoString} {data : Bytes}
    (decoded : decodeCanonicalRawBase64URL value = .ok data) : rawURLEncode data = value := by
  unfold decodeCanonicalRawBase64URL at decoded
  simp only [bind_eq_ok] at decoded
  obtain ⟨_, -, _, -, _, -, decoded⟩ := decoded
  split at decoded
  · cases decoded
  · simp only [bind_eq_ok, failIf_eq_ok, not_not] at decoded
    obtain ⟨_, canonical, same⟩ := decoded
    cases same
    exact canonical

/-- `PublicString`. -/
def publicString (key : Bytes) : GoString :=
  rawURLEncode key

/-- `PublicFromString`. -/
def publicFromString (value : GoString) : Except GoError Bytes :=
  match decodeCanonicalRawBase64URL value with
  | .ok data =>
    if data.length ≠ ed25519PublicKeySize then
      .error (errorsNew "accesslease: invalid Ed25519 public key")
    else .ok data
  | .error _ => .error (errorsNew "accesslease: invalid Ed25519 public key")

/-- `decodeSignature`. -/
def decodeSignature (signature : GoString) : Except GoError Bytes :=
  match decodeCanonicalRawBase64URL signature with
  | .ok value =>
    if value.length ≠ ed25519SignatureSize then
      .error (errorsNew "accesslease: invalid signature encoding")
    else .ok value
  | .error _ => .error (errorsNew "accesslease: invalid signature encoding")

/-- A signature is the only one of its text, and has its size. -/
theorem decodeSignature_canonical {signature : GoString} {value : Bytes}
    (decoded : decodeSignature signature = .ok value) :
    rawURLEncode value = signature ∧ value.length = ed25519SignatureSize := by
  unfold decodeSignature at decoded
  split at decoded
  · rename_i data canonical
    split at decoded
    · cases decoded
    · rename_i size
      obtain rfl := Except.ok.inj decoded
      exact ⟨decodeCanonicalRawBase64URL_eq_ok canonical, Classical.not_not.mp size⟩
  · cases decoded

theorem decodeSignature_length_le {signature : GoString} {value : Bytes}
    (decoded : decodeSignature signature = .ok value) : signature.length ≤ 128 := by
  obtain ⟨canonical, size⟩ := decodeSignature_canonical decoded
  have bound := rawURLEncode_length_le value
  rw [canonical, size] at bound
  exact bound

def errStrict : GoError :=
  .sentinel (str "accesslease: invalid encoding")

/-- The bounds and the canonical decoding of `decodeStrictJSON`; the scan of
the JSON object belongs to `Primitives`. -/
def decodeStrict (encoded : GoString) : Except GoError Bytes := do
  failIf (maxBytes < encoded.length) (errorsNew "accesslease: encoded field exceeds bound")
  match decodeCanonicalRawBase64URL encoded with
  | .error _ => .error errStrict
  | .ok data => do
      failIf (maxBytes < data.length) (errorsNew "accesslease: payload exceeds byte bound")
      return data

/-- The bounded base64url text of a credential. -/
def encodeBounded (data : Bytes) (tooLong : String) : Except GoError GoString := do
  failIf (maxBytes < (rawURLEncode data).length) (errorsNew tooLong)
  return rawURLEncode data

/-- `validString`. -/
def validString (value : GoString) : Bool :=
  0 < value.length && value.length ≤ maxFieldLen

/-- `validNonEmpty`. -/
def validNonEmpty (value : GoString) (max : ℕ) : Bool :=
  0 < value.length && value.length ≤ max

/-- `randomID`, on the bytes `rand.Read` delivered. -/
def randomID (label : String) (random : Except GoError Bytes) : Except GoError GoString := do
  let value ← random
  return str label ++ base32Encode value

/-- `NewJTI`. -/
def newJTI (random : Except GoError Bytes) : Except GoError GoString :=
  randomID "jti_" random

/-- `NewSessionID`. -/
def newSessionID (random : Except GoError Bytes) : Except GoError GoString :=
  randomID "ses_" random

/-- `RandomChallenge`. -/
def randomChallenge (random : Except GoError Bytes) : Except GoError GoString := do
  let value ← random
  return base32Encode value

/-- A parsed public key is the only key with that text. -/
theorem publicFromString_eq_ok {value : GoString} {key : Bytes}
    (parsed : publicFromString value = .ok key) :
    publicString key = value ∧ key.length = ed25519PublicKeySize := by
  unfold publicFromString at parsed
  split at parsed
  · rename_i data decoded
    split at parsed
    · cases parsed
    · rename_i size
      obtain rfl := Except.ok.inj parsed
      refine ⟨?_, by simpa using size⟩
      unfold decodeCanonicalRawBase64URL at decoded
      simp only [bind_eq_ok, failIf_eq_ok] at decoded
      obtain ⟨-, -, -, -, -, -, decoded⟩ := decoded
      split at decoded
      · cases decoded
      · simp only [bind_eq_ok, failIf_eq_ok, pure, Except.pure, Except.ok.injEq] at decoded
        grind [publicString]
  · cases parsed

/-- The empty text is not a public key. -/
theorem publicFromString_nil (key : Bytes) : publicFromString [] ≠ .ok key := by
  intro parsed
  simp [publicFromString, decodeCanonicalRawBase64URL, failIf, bind, Except.bind] at parsed

variable (prim : Primitives)

/-! ## Pipe identifiers -/

/-- `PipeIDFromOwner`. -/
def pipeIDFromOwner (owner : Bytes) : GoString :=
  str "pip_" ++ toLowerASCII (base32Encode ((prim.sha256 owner).take 20))

theorem pipeIDFromOwner_bytes (owner : Bytes) : pipeIDFromOwner prim owner =
      [0x70, 0x69, 0x70, 0x5F] ++ toLowerASCII (base32Encode ((prim.sha256 owner).take 20)) := by
  rfl

/-- The tail of a Pipe identifier is short. -/
theorem pipeIDFromOwner_length (owner : Bytes) : (pipeIDFromOwner prim owner).length ≤ 36 := by
  have encoded := base32Encode_length ((prim.sha256 owner).take 20)
  grind [pipeIDFromOwner_bytes, toLowerASCII]

/-- `VerifyPipeOwner`. -/
def verifyPipeOwner (pipeID : GoString) (owner : Bytes) : Bool :=
  !(pipeID == [] || owner.length != ed25519PublicKeySize) && pipeID == pipeIDFromOwner prim owner

/-! ## Possession proofs -/

/-- The message of a possession proof: purpose and parts, separated by NUL. -/
def proofMessage (purpose : GoString) (parts : List GoString) : Bytes :=
  purpose ++ [0] ++ join 0 parts

/-- `SignProof`. -/
def signProof (secret : Bytes) (purpose : GoString) (parts : List GoString) : GoString :=
  rawURLEncode (prim.sign secret (proofMessage purpose parts))

/-- `VerifyProof`. -/
def verifyProof (key : Bytes) (signature purpose : GoString) (parts : List GoString) : Bool :=
  match decodeSignature signature with
  | .error _ => false
  | .ok value => prim.verify key (proofMessage purpose parts) value

/-- A verified proof is a canonical signature by that key over exactly the
purpose and the parts. -/
theorem verifyProof_eq_true {key : Bytes} {signature purpose : GoString} {parts : List GoString}
    (verified : verifyProof prim key signature purpose parts = true) :
    ∃ value, decodeSignature signature = .ok value ∧
      prim.verify key (proofMessage purpose parts) value = true := by
  grind [verifyProof]

end Tubo
