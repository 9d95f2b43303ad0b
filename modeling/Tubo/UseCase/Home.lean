import Tubo.ExactAuthority.Authority
import Tubo.Store.Connection

/-!
# A consumer home

What the commands `accept`, `connect` and `rm` work on: the database of one
machine, the private keys under its secrets directory, a clock, and the network
behind the ports `ReachabilityAcquirer`, `RedemptionService` and
`RenewalService` of package `internal/usecase`.

`HomeCommand` is the signature of their steps.  The database and the key files
are the state of a `Home`; whatever is not decided by them — the time, fresh
randomness, the other machines, the processes of this machine — is given by
`Surroundings`.
-/

namespace Tubo

open Concurrency

/-! ## Package `localkey` -/

/-- `os.ErrNotExist`. -/
def errNotExist : GoError := .sentinel (str "file does not exist")

/-- A private key as package `localkey` returns it. -/
structure PrivateKey where
  secret : Bytes
  size : secret.length = ed25519PrivateKeySize
  deriving DecidableEq

/-- What `localkey.Load` makes of an existing file: the canonical key it holds,
or the reason why the file is rejected. -/
abbrev KeyFile := Except GoError PrivateKey

/-- A consumer home.  `readings` counts how often the clock was read. -/
structure Home where
  store : Store := {}
  keys : Table GoString KeyFile := ∅
  readings : ℕ := 0

namespace Home

/-- `localkey.Load`. -/
def load (h : Home) (path : GoString) : Except GoError PrivateKey :=
  match h.keys.lookup path with
  | some content => content
  | none => .error errNotExist

/-- `localkey.Provision`, where a key that is generated now would be `fresh`.  An
existing file is never overwritten, even if it is rejected. -/
def provision (h : Home) (fresh : Except GoError PrivateKey)
    (path : GoString) : Except GoError PrivateKey × Home :=
  match h.keys.lookup path, fresh with
  | some content, _ => (content, h)
  | none, .error error => (.error error, h)
  | none, .ok key =>
    (.ok key, { h with keys := h.keys.insert path (.ok key) })

/-- `os.Remove`. -/
def removeFile (h : Home) (path : GoString) : Except GoError Unit × Home :=
  match h.keys.lookup path with
  | some _ => (.ok (), { h with keys := h.keys.erase path })
  | none => (.error errNotExist, h)

end Home

/-! ## Steps -/

/-- `RenewalRequest`. -/
structure RenewalRequest where
  pipeID : GoString
  recipientPublic : GoString
  ownerBinding : GoString
  deriving DecidableEq, Repr

/-- A step of a consumer command. -/
inductive HomeCommand
  | now
  | provision (path : GoString)
  | load (path : GoString)
  | removeFile (path : GoString)
  | pipe (identifier : GoString)
  | putPipe (spec : PipeSpec) (ownerKey publishGrant : GoString)
  | deletePipe (ref : GoString)
  | deleteService (ref : GoString)
  | settleRun (ref : GoString) (force : Bool)
  | getRemotePipeBinding (remotePipeID : GoString)
  | putRemotePipeBinding (b : RemotePipeBinding)
  | getAccessLeaseCache (remotePipeID : GoString)
  | putAccessLeaseCache (c : AccessLeaseCache)
  | acquire (address : GoString)
  | redeem (invite : ExactInvite) (recipientPublic : GoString)
  | renew (request : RenewalRequest)

/-- What a step returns. -/
@[reducible]
def HomeCommand.Response : HomeCommand → Type
  | .now => Time
  | .provision .. => Except GoError PrivateKey
  | .load .. => Except GoError PrivateKey
  | .removeFile .. => Except GoError Unit
  | .pipe .. => Except GoError PipeRow
  | .putPipe .. => Except GoError Bool
  | .deletePipe .. => Except GoError GoString
  | .deleteService .. => Except GoError Unit
  | .settleRun .. => Except GoError Unit
  | .getRemotePipeBinding .. => Except GoError RemotePipeBinding
  | .putRemotePipeBinding .. => Except GoError Unit
  | .getAccessLeaseCache .. => Except GoError AccessLeaseCache
  | .putAccessLeaseCache .. => Except GoError Unit
  | .acquire .. => Except GoError Unit
  | .redeem .. => Except GoError AccessLease
  | .renew .. => Except GoError AccessLease

/-- A step together with its response. -/
abbrev HomeExchange := Exchange HomeCommand HomeCommand.Response

/-- A command, or a part of it. -/
abbrev HomeProgram (α : Type) :=
  Program HomeCommand HomeCommand.Response (Except GoError α)

/-- Everything around a home while one command runs: the successive readings of
the clock, the key that would be generated at a path, the answers of the
network, and what `rm` finds about services and running processes. -/
structure Surroundings where
  clock : ℕ → Time
  freshKey : GoString → Except GoError PrivateKey
  acquire : GoString → Except GoError Unit
  redeem : ExactInvite → GoString → Except GoError AccessLease
  renew : RenewalRequest → Except GoError AccessLease
  deleteService : GoString → Except GoError Unit
  settleRun : GoString → Bool → Except GoError Unit

namespace Home

/-- A database transaction in a home. -/
def transact {α : Type} (h : Home) (transaction : Except GoError (α × Store)) :
    Except GoError α × Home :=
  let committed := commit h.store transaction
  (committed.1, { h with store := committed.2 })

/-- The effect of a step. -/
def execute (env : Surroundings) : (c : HomeCommand) → Home → c.Response × Home
  | .now, h => (env.clock h.readings, { h with readings := h.readings + 1 })
  | .provision path, h => h.provision (env.freshKey path) path
  | .load path, h => (h.load path, h)
  | .removeFile path, h => h.removeFile path
  | .pipe identifier, h => (h.store.pipe identifier, h)
  | .putPipe spec ownerKey publishGrant, h =>
    h.transact (h.store.putPipe spec ownerKey publishGrant)
  | .deletePipe ref, h => h.transact (h.store.deletePipe ref)
  | .deleteService ref, h => (env.deleteService ref, h)
  | .settleRun ref force, h => (env.settleRun ref force, h)
  | .getRemotePipeBinding remotePipeID, h =>
    (h.store.getRemotePipeBinding remotePipeID, h)
  | .putRemotePipeBinding b, h =>
    h.transact ((h.store.putRemotePipeBinding b (env.clock h.readings)).map ((), ·))
  | .getAccessLeaseCache remotePipeID, h =>
    let read := h.store.getAccessLeaseCache remotePipeID (env.clock h.readings)
    (read.1, { h with store := read.2 })
  | .putAccessLeaseCache c, h =>
    h.transact ((h.store.putAccessLeaseCache c).map ((), ·))
  | .acquire address, h => (env.acquire address, h)
  | .redeem invite recipientPublic, h =>
    (env.redeem invite recipientPublic, h)
  | .renew request, h => (env.renew request, h)

/-! ## What a step can change -/

/-- A transaction that leaves a part of the database alone when it succeeds,
leaves it alone. -/
theorem transact_part {α β : Type} (part : Store → β) (h : Home)
    {transaction : Except GoError (α × Store)}
    (kept : ∀ value written, transaction = .ok (value, written) → part written = part h.store) :
    part (h.transact transaction).2.store = part h.store := by
  cases transaction with
  | error error => rfl
  | ok result => exact kept result.1 result.2 rfl

theorem provision_store (h : Home) (fresh : Except GoError PrivateKey)
    (path : GoString) : (h.provision fresh path).2.store = h.store := by
  unfold provision
  split <;> rfl

variable {h : Home} {fresh : Except GoError PrivateKey} {path : GoString}

/-- The provisioned key depends on the key files only. -/
theorem provision_fst {other : Home} (sameKeys : h.keys = other.keys) :
    (h.provision fresh path).1 = (other.provision fresh path).1 := by
  unfold provision
  rw [sameKeys]
  split <;> rfl

theorem removeFile_store (h : Home) (path : GoString) : (h.removeFile path).2.store = h.store := by
  unfold removeFile
  split <;> rfl

/-- After the removal of a file there is no such file. -/
theorem removeFile_lookup (h : Home) (path : GoString) :
    (h.removeFile path).2.keys.lookup path = none := by
  unfold removeFile
  split
  · exact AList.lookup_erase _ _
  · assumption

theorem removeFile_lookup_ne {other : GoString} (different : other ≠ path) :
    (h.removeFile path).2.keys.lookup other = h.keys.lookup other := by
  unfold removeFile
  split
  · exact AList.lookup_erase_ne different
  · rfl

/-- Provisioning leaves every existing file as it is. -/
theorem provision_lookup
    {other : GoString} {content : KeyFile} (present : h.keys.lookup other = some content) :
    (h.provision fresh path).2.keys.lookup other = some content := by
  unfold provision
  split
  · exact present
  · exact present
  · grind [AList.lookup_insert_ne]

/-- A provisioned key is in its file. -/
theorem provision_eq_ok {key : PrivateKey} (provisioned : (h.provision fresh path).1 = .ok key) :
    (h.provision fresh path).2.keys.lookup path = some (.ok key) := by
  unfold provision at provisioned ⊢
  grind [AList.lookup_insert]

variable {env : Surroundings} {c : HomeCommand} {h : Home}

/-- Only `putRemotePipeBinding` changes a binding. -/
theorem execute_bindings (other : ∀ b, c ≠ .putRemotePipeBinding b) :
    (execute env c h).2.store.remotePipeBindings =
      h.store.remotePipeBindings := by
  cases c with
  | provision path =>
    exact congrArg Store.remotePipeBindings (provision_store h _ path)
  | removeFile path =>
    exact congrArg Store.remotePipeBindings (removeFile_store h path)
  | putPipe spec ownerKey publishGrant =>
    exact transact_part Store.remotePipeBindings h fun _ _ put => Store.putPipe_bindings put
  | deletePipe ref =>
    refine transact_part Store.remotePipeBindings h ?_
    grind [Store.deletePipe_eq_ok]
  | putRemotePipeBinding b => exact absurd rfl (other b)
  | getAccessLeaseCache remotePipeID =>
    exact Store.getAccessLeaseCache_bindings _ _ _
  | putAccessLeaseCache cached =>
    refine transact_part Store.remotePipeBindings h ?_
    intro value written put
    cases outcome : h.store.putAccessLeaseCache cached with
    | error error =>
      rw [outcome] at put
      cases put
    | ok after =>
      rw [outcome] at put
      cases put
      rw [Store.putAccessLeaseCache_eq_ok outcome]
  | _ => rfl

/-- A key file changes only if it is removed. -/
theorem execute_lookup {content : KeyFile} (spared : c ≠ .removeFile path)
    (present : h.keys.lookup path = some content) :
    (execute env c h).2.keys.lookup path = some content := by
  cases c with
  | provision other => exact provision_lookup present
  | removeFile other =>
    refine (removeFile_lookup_ne ?_).trans present
    rintro rfl
    exact spared rfl
  | _ => exact present

end Home

end Tubo
