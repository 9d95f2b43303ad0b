import Tubo.AccessLease.Sign
import Tubo.Domain.Model

/-!
# Tokens and published records

Packages `internal/authority` (file `token.go`) and `internal/discovery`: the
tokens that the authority of a Scope signs, and the record that the owner of a
published Pipe signs.  JSON is a parameter, as for credentials.
-/

namespace Tubo

/-! ## Data -/

/-- `PipeEndpoint`. -/
structure PipeEndpoint where
  peerID : GoString
  addresses : List GoString
  protocol : GoString
  deriving DecidableEq, Repr

/-- `authority.Token`. -/
structure Token where
  version : ℤ
  type : GoString
  issuer : GoString
  subject : GoString
  audience : GoString
  scope : Scope
  role : GoString
  jti : GoString
  issuedAt : Time
  expiresAt : Time
  authorityAddress : GoString
  namespaceKey : GoString
  oneTime : Bool
  pipeEndpoint : Option PipeEndpoint
  displayNameHint : GoString
  accessEpoch : ℕ
  publishEpoch : ℕ
  signature : GoString
  deriving DecidableEq, Repr

/-- `discovery.PipeRecord`. -/
structure PipeRecord where
  version : ℤ
  pipeID : GoString
  displayName : GoString
  ownerPublicKey : GoString
  runtimePeerID : GoString
  scope : Scope
  protocol : GoString
  capabilities : List GoString
  addresses : List GoString
  visibility : Visibility
  access : AccessPolicy
  publishGrant : GoString
  issuedAt : Time
  expiresAt : Time
  sequence : ℕ
  signature : GoString
  deriving DecidableEq, Repr

/-- JSON of tokens and records.  `tokenBody` and `recordBody` are `signingBytes`;
`unmarshalToken` and `unmarshalRecord` are the strict decoder with the check for
trailing data. -/
structure RecordJSON where
  tokenBody : Token → Except GoError Bytes
  unmarshalToken : Bytes → Except GoError Token
  recordBody : PipeRecord → Except GoError Bytes
  marshalRecord : PipeRecord → Except GoError Bytes
  unmarshalRecord : Bytes → Except GoError PipeRecord

variable (prim : Primitives) (json : RecordJSON)

/-! ## Package `authority` -/

/-- `MaxTokenSize`. -/
def maxTokenSize : ℕ := 48 * 1024

/-- `authority.PublicFromString`, which takes any raw base64url text. -/
def authorityPublicFromString (value : GoString) : Except GoError Bytes :=
  match rawURLDecode value with
  | some data =>
    if data.length ≠ ed25519PublicKeySize then
      .error (errorsNew "invalid Ed25519 public key")
    else .ok data
  | none => .error (errorsNew "invalid Ed25519 public key")

/-- `authority.VerifyProof`. -/
def authorityVerifyProof (key : Bytes) (signature purpose : GoString)
    (parts : List GoString) : Bool :=
  match rawURLDecode signature with
  | some value => prim.verify key (proofMessage purpose parts) value
  | none => false

/-- `authority.Decode`. -/
def decodeToken (encoded : GoString) : Except GoError Token := do
  failIf (maxTokenSize < encoded.length) (errorsNew "token exceeds encoded limit")
  match rawURLDecode encoded with
  | none => .error (errorsNew "invalid token encoding")
  | some data => do
      failIf (maxTokenSize < data.length) (errorsNew "token exceeds 48 KiB")
      json.unmarshalToken data

/-- A text of bounded length that is not empty. -/
def boundedText (value : GoString) : Bool :=
  value != [] && value.length ≤ 8192

namespace Token

/-- The checks of `Verify` on the published endpoint. -/
def verifyEndpoint (endpoint : PipeEndpoint) : Except GoError Unit :=
  failIf (boundedText endpoint.peerID = false ∨
      boundedText endpoint.protocol = false ∨ endpoint.addresses.length = 0 ∨
      64 < endpoint.addresses.length ∨
      endpoint.addresses.all boundedText = false)
    (errorsNew "invalid pipe endpoint")

/-- The signature check of `Verify`. -/
def verifySignature (t : Token) (key : Bytes) : Except GoError Unit := do
  failIf (t.issuer ≠ rawURLEncode key) (errorsNew "token issuer does not match pinned authority")
  match rawURLDecode t.signature with
  | none => .error (errorsNew "invalid token signature encoding")
  | some signature => do
      failIf (signature.length ≠ ed25519SignatureSize)
        (errorsNew "invalid token signature encoding")
      let message ← json.tokenBody t
      failIf (prim.verify key message signature = false) (errorsNew "invalid token signature")

/-- `Verify`, at a clock reading that is not zero. -/
def verify (t : Token) (key : Bytes) (now : Time) : Except GoError Unit := do
  failIf (t.version ≠ 2) (.new (str "unsupported token version " ++ itoa t.version))
  failIf (boundedText t.subject = false ∨ boundedText t.jti = false ∨
      8192 < t.audience.length ∨ 8192 < t.displayNameHint.length)
    (errorsNew "invalid token metadata")
  match t.pipeEndpoint with
  | none => pure ()
  | some endpoint => verifyEndpoint endpoint
  failIf (t.type = str "share.invite" ∧
      (t.oneTime = false ∨ t.audience = [] ∨ t.pipeEndpoint = none))
    (errorsNew "invalid share invite")
  failIf (t.type = str "connect.refresh" ∧ t.audience = []) (errorsNew "invalid refresh lease")
  t.scope.validate
  failIf (t.issuedAt.isZero = true ∨ t.expiresAt.after t.issuedAt = false)
    (errorsNew "invalid token lifetime")
  failIf (t.expiresAt.after now = false) (errorsNew "token expired")
  failIf (t.issuedAt.after (now.add (30 * second)) = true) (errorsNew "token issued in future")
  t.verifySignature prim json key

end Token

/-! ## Package `discovery` -/

/-- `MaxRecordSize`. -/
def maxRecordSize : ℕ := 64 * 1024

namespace PipeRecord

/-- `Marshal`. -/
def marshal (r : PipeRecord) : Except GoError Bytes := do
  let data ← json.marshalRecord r
  failIf (maxRecordSize < data.length) (errorsNew "record exceeds 64 KiB")
  return data

/-- `Parse`. -/
def parse (data : Bytes) : Except GoError PipeRecord := do
  failIf (maxRecordSize < data.length) (errorsNew "record exceeds 64 KiB")
  json.unmarshalRecord data

/-- The owner signature of `Verify`. -/
def verifyOwner (r : PipeRecord) : Except GoError Unit := do
  let owner ← authorityPublicFromString r.ownerPublicKey
  failIf (pipeIDFromOwner prim owner ≠ r.pipeID) (errorsNew "pipe_id does not match owner key")
  match rawURLDecode r.signature with
  | none => .error (errorsNew "invalid record signature encoding")
  | some signature => do
      let message ← json.recordBody r
      failIf (prim.verify owner message signature = false)
        (errorsNew "invalid record owner signature")

/-- The publish grant of `Verify`. -/
def verifyGrant (r : PipeRecord) (authorityPublic : Bytes) (now : Time) : Except GoError Unit := do
  let grant ← errorf "publish grant: " (decodeToken json r.publishGrant)
  errorf "publish grant: " (grant.verify prim json authorityPublic now)
  failIf (grant.type ≠ str "pipe.publish" ∨ grant.audience ≠ r.pipeID ∨ grant.scope ≠ r.scope)
    (errorsNew "publish grant binding mismatch")
  failIf (r.expiresAt.after grant.expiresAt = true) (errorsNew "record outlives publish grant")

/-- `Verify`. -/
def verify (r : PipeRecord) (authorityPublic : Bytes) (scope : Scope)
    (now : Time) : Except GoError Unit := do
  failIf (r.version ≠ 2) (.new (str "unsupported record version " ++ itoa r.version))
  failIf (r.scope ≠ scope) (errorsNew "record scope mismatch")
  r.scope.validate
  failIf (r.addresses.length = 0 ∨ 16 < r.addresses.length ∨ 64 < r.capabilities.length)
    (errorsNew "invalid record bounds")
  failIf (r.visibility ≠ .discoverable ∧ r.visibility ≠ .unlisted)
    (errorsNew "invalid published visibility")
  failIf (r.access ≠ .inviteOnly ∧ r.access ≠ .members ∧ r.access ≠ .public)
    (errorsNew "invalid access policy hint")
  failIf (r.sequence = 0) (errorsNew "record sequence is required")
  failIf (r.addresses.any (8192 < ·.length) = true) (errorsNew "record address exceeds limit")
  failIf (r.expiresAt.after r.issuedAt = false ∨ r.expiresAt.after now = false ∨
      r.issuedAt.after (now.add (30 * second)) = true)
    (errorsNew "record lifetime invalid, expired, or issued in future")
  r.verifyOwner prim json
  r.verifyGrant prim json authorityPublic now

end PipeRecord

end Tubo
