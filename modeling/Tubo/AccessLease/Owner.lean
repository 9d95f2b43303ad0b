import Tubo.AccessLease.Sign

/-!
# The owner binding

Package `internal/accesslease`, file `owner.go`.  The binding ties exactly one
Exact Authority key to one Pipe, and it is signed by the owner of the Pipe.
-/

namespace Tubo

variable (prim : Primitives)

namespace OwnerBinding

/-- `signingBody`. -/
def signingBody (b : OwnerBinding) : Except GoError Bytes := do
  let canonical ← prim.bindingBody b
  return ownerBindingSigningDomain ++ canonical

/-- `Sign`. -/
def sign (b : OwnerBinding) (owner : Bytes) : Except GoError OwnerBinding := do
  let stamped := { b with owner := publicString (prim.publicKey owner) }
  let canonical ← stamped.signingBody prim
  return { stamped with signature := publicString (prim.sign owner canonical) }

/-- `VerifyOwnerBinding`. -/
def verifyOwnerBinding (b : OwnerBinding) : Except GoError Bytes := do
  failIf (b.version ≠ credentialVersion ∨ b.type ≠ ownerBindingType)
    (errorsNew "accesslease: wrong binding kind or version")
  failIf (¬validString b.owner ∨ ¬validString b.authorityKey ∨
      ¬validString b.pipeID ∨ maxPipeIDLen < b.pipeID.length)
    (errorsNew "accesslease: invalid binding identity or metadata")
  failIf (maxRedemptionAddrLen < b.redemptionPeers.length)
    (errorsNew "accesslease: redemption peers out of bounds")
  failIf (b.redemptionPeers ≠ [] ∧ maxRedemptionAddresses < (split 0x2C b.redemptionPeers).length)
    (errorsNew "accesslease: too many redemption peers")
  failIf (b.redemptionProtocol ≠ [] ∧ maxRedemptionProtocolLen < b.redemptionProtocol.length)
    (errorsNew "accesslease: redemption protocol out of bounds")
  let ownerPub ← publicFromString b.owner
  let authorityPub ← publicFromString b.authorityKey
  failIf (authorityPub.length ≠ ed25519PublicKeySize)
    (errorsNew "accesslease: invalid authority key")
  let signature ← decodeSignature b.signature
  let canonical ← b.signingBody prim
  failIf (¬prim.verify ownerPub canonical signature)
    (errorsNew "accesslease: invalid owner binding signature")
  return ownerPub

/-- `VerifyOwnerAuthority`.  The returned record repeats fields of the binding;
it is represented by the binding itself. -/
def verifyOwnerAuthority (b : OwnerBinding) (authorityKey : GoString) :
    Except GoError OwnerBinding := do
  let ownerPub ← b.verifyOwnerBinding prim
  failIf (¬verifyPipeOwner prim b.pipeID ownerPub)
    (errorsNew "accesslease: binding owner is not the Pipe owner")
  failIf (authorityKey ≠ [] ∧ b.authorityKey ≠ authorityKey)
    (errorsNew "accesslease: authority key does not match binding")
  return b

end OwnerBinding

/-- `NewOwnerBinding`. -/
def newOwnerBinding (ownerPrivate authorityKey : Bytes) (pipeID : GoString)
    (epoch : ℕ) (redemptionPeers redemptionProtocol : GoString) :
    Except GoError OwnerBinding := do
  let owner := prim.publicKey ownerPrivate
  failIf (owner.length ≠ ed25519PublicKeySize) (errorsNew "accesslease: invalid owner key")
  failIf (¬verifyPipeOwner prim pipeID owner)
    (errorsNew "accesslease: owner cannot bind a foreign Pipe")
  failIf (¬validString pipeID ∨ maxPipeIDLen < pipeID.length)
    (errorsNew "accesslease: invalid pipe id")
  failIf (authorityKey.length ≠ ed25519PublicKeySize)
    (errorsNew "accesslease: invalid authority key")
  -- Splitting the empty list of peers yields one empty peer, so the count is
  -- checked here even where verification skips it.
  failIf (maxRedemptionAddresses < (split 0x2C redemptionPeers).length ∨
      maxRedemptionAddrLen < redemptionPeers.length)
    (errorsNew "accesslease: redemption peers out of bounds")
  failIf (redemptionProtocol ≠ [] ∧ maxRedemptionProtocolLen < redemptionProtocol.length)
    (errorsNew "accesslease: redemption protocol out of bounds")
  OwnerBinding.sign prim
    { version := credentialVersion, type := ownerBindingType,
      owner := publicString owner, authorityKey := publicString authorityKey,
      pipeID, redemptionPeers, redemptionProtocol, epoch, signature := [] }
    ownerPrivate

/-- `EncodeOwnerBinding`. -/
def encodeOwnerBinding (b : OwnerBinding) : Except GoError GoString := do
  let data ← prim.marshalBinding b
  encodeBounded data "accesslease: owner binding exceeds bounded field"

/-- `DecodeOwnerBinding`. -/
def decodeOwnerBinding (encoded : GoString) : Except GoError OwnerBinding := do
  let data ← decodeStrict encoded
  prim.unmarshalBinding data

end Tubo
