import Tubo.AccessLease.Invite

/-!
# The Exact Authority key

Package `internal/exactauthority`, file `exactauthority.go`: where the dedicated
key of a Pipe is kept, how the owner provisions it, and how it is loaded against
an owner binding.  Reading and creating the key file is the business of
`internal/localkey`; its outcome is an argument here.
-/

namespace Tubo

variable (prim : Primitives)

/-- The size of an Ed25519 private key. -/
def ed25519PrivateKeySize : ℕ := 64

/-- `validPipeIDComponent`. -/
def validPipeIDComponent (pipeID : GoString) : Bool :=
  hasPrefix pipeID (str "pip_") && !containsAny pipeID [0x2F, 0x5C] && pipeID.length ≤ maxPipeIDLen

/-- `KeyPath`. -/
def keyPath (secretsDir pipeID : GoString) : Except GoError GoString := do
  failIf (secretsDir = [] ∨ ¬validPipeIDComponent pipeID)
    (errorsNew "exactauthority: invalid key path")
  return secretsDir ++ str "/exact-authorities/" ++ pipeID ++ str ".key"

/-- A Pipe identifier with a key path is not empty. -/
theorem keyPath_pipeID_ne_nil {secretsDir pipeID path : GoString}
    (found : keyPath secretsDir pipeID = .ok path) : pipeID ≠ [] := by
  rintro rfl
  unfold keyPath at found
  simp only [bind_eq_ok, failIf_eq_ok] at found
  obtain ⟨-, valid, -⟩ := found
  exact valid (Or.inr (by decide))

/-- `Authority`: the loaded private key and the verified owner binding. -/
structure Authority where
  secret : Bytes
  binding : OwnerBinding

/-- `fromBinding`. -/
def fromBinding (secret : Bytes) (binding : OwnerBinding) : Except GoError Authority := do
  failIf (secret.length ≠ ed25519PrivateKeySize) (errorsNew "exactauthority: invalid private key")
  let owner ← binding.verifyOwnerAuthority prim (publicString (prim.publicKey secret))
  failIf (owner.authorityKey = owner.owner) (errorsNew
      "exactauthority: authority key must be dedicated and distinct from owner")
  return ⟨secret, binding⟩

/-- `Loader.Load`, on the outcome of reading the key file. -/
def loadAuthority (keyFile : Except GoError Bytes) (binding : OwnerBinding) :
    Except GoError Authority := do
  let secret ← keyFile
  fromBinding prim secret binding

/-- `LocalOwnerWorkflow`; the path of the key file is left to the caller. -/
structure LocalOwnerWorkflow where
  pipeID : GoString
  epoch : ℕ
  redemptionPeers : GoString
  redemptionProtocol : GoString

/-- `LocalOwnerWorkflow.Provision`, on the outcome of creating or loading the
key file. -/
def LocalOwnerWorkflow.provision (w : LocalOwnerWorkflow) (ownerPrivate : Bytes)
    (keyFile : Except GoError Bytes) : Except GoError Authority := do
  failIf (¬verifyPipeOwner prim w.pipeID (prim.publicKey ownerPrivate)) (errorsNew
      "exactauthority: owner cannot provision authority for foreign Pipe")
  let secret ← keyFile
  let binding ← newOwnerBinding prim ownerPrivate (prim.publicKey secret)
    w.pipeID w.epoch w.redemptionPeers w.redemptionProtocol
  fromBinding prim secret binding

end Tubo
