import Tubo.Go.Encoding
import Tubo.Go.TimeOrder
import Tubo.Store.Access

/-!
# The discovery tables

Package `internal/store`, file `store.go`: announced and discovered records, the
counters of a Scope authority, the freshness of a Scope, and the lease of its
periodic synchronisation.  No statement on these tables touches another table.

Each function is one SQL statement or one transaction.  An error leaves the
tables as they were.  A timestamp column holds the `RFC3339Nano` text of a UTC
time; the model keeps the time and compares the texts, as SQLite does.  Where the
source parses the text, it gets the time back.
-/

namespace Tubo

/-! ## Rows -/

/-- Primary key of `records`. -/
structure RecordKey where
  scope : GoString
  pipeID : GoString
  deriving DecidableEq, Repr

/-- Row of `records`. -/
structure RecordRow where
  name : GoString
  payload : Bytes
  expiresAt : Time
  sequence : ℕ
  discovered : Bool
  deriving DecidableEq, Repr

/-- Row of `scope_freshness`; the key is the Scope, and an empty timestamp is
`none`. -/
structure FreshnessRow where
  lastAttempt : Option Time := none
  lastSuccess : Option Time := none
  source : GoString := []
  complete : Bool := false
  errorClass : GoString := []
  nextRetry : Option Time := none
  snapshotGeneration : ℕ := 0
  snapshotHighWater : ℕ := 0
  snapshotDigest : GoString := []
  deriving DecidableEq, Repr

/-- Row of `authority_snapshots`; the key is the Scope. -/
structure AuthorityRow where
  generation : ℕ
  highWater : ℕ
  deriving DecidableEq, Repr

/-- Row of `scope_sync_leases`; the key is the Scope. -/
structure SyncLeaseRow where
  holderRef : GoString
  holderProcessIdentity : GoString
  leaseToken : GoString
  acquiredAt : Time
  renewedAt : Time
  expiresAt : Time
  deriving DecidableEq, Repr

/-- The tables. -/
structure Discovery where
  records : Table RecordKey RecordRow := ∅
  scopeFreshness : Table GoString FreshnessRow := ∅
  authoritySnapshots : Table GoString AuthorityRow := ∅
  scopeSyncLeases : Table GoString SyncLeaseRow := ∅
  deriving DecidableEq

/-- `DELETE FROM … WHERE`: the rows that are kept. -/
def Table.keep {κ ν : Type} (wanted : κ → ν → Bool) (table : Table κ ν) : Table κ ν where
  entries := table.entries.filter fun entry => wanted entry.1 entry.2
  nodupKeys := table.nodupKeys.sublist List.filter_sublist

theorem Table.keep_lookup {κ ν : Type} [DecidableEq κ] (wanted : κ → ν → Bool)
    (table : Table κ ν) (key : κ) :
    (Table.keep wanted table).lookup key = (table.lookup key).filter (wanted key) := by
  refine Option.ext fun row => ?_
  rw [← Option.mem_def, AList.mem_lookup_iff, Option.filter_eq_some_iff,
    ← Option.mem_def, AList.mem_lookup_iff, Table.keep, List.mem_filter]

/-! ## Arguments and results -/

/-- `Record`. -/
structure Record where
  scope : GoString
  pipeID : GoString
  name : GoString
  payload : Bytes
  expiresAt : Time
  sequence : ℕ
  discovered : Bool := false
  deriving DecidableEq, Repr

/-- The key of a record. -/
def Record.key (v : Record) : RecordKey := ⟨v.scope, v.pipeID⟩

/-- The row that is stored for a record. -/
def Record.row (v : Record) : RecordRow :=
  ⟨v.name, v.payload, v.expiresAt.utc, v.sequence, v.discovered⟩

/-- The record of a row. -/
def RecordRow.record (row : RecordRow) (key : RecordKey) : Record :=
  ⟨key.scope, key.pipeID, row.name, row.payload, row.expiresAt, row.sequence, row.discovered⟩

/-- `ScopeSyncLease`, as `AcquireScopeSyncLease` returns it. -/
structure ScopeSyncLease where
  scope : GoString
  holderRef : GoString
  processIdentity : GoString
  token : GoString
  acquiredAt : Time
  renewedAt : Time
  expiresAt : Time
  deriving DecidableEq, Repr

/-- The row that is stored for a lease; its key is the Scope. -/
def ScopeSyncLease.row (lease : ScopeSyncLease) : SyncLeaseRow :=
  ⟨lease.holderRef, lease.processIdentity, lease.token, lease.acquiredAt,
    lease.renewedAt, lease.expiresAt⟩

/-- `AuthoritativeSnapshot`. -/
structure AuthoritativeSnapshot where
  source : GoString
  complete : Bool
  generation : ℕ
  highWater : ℕ
  digest : GoString
  records : List Record
  deriving DecidableEq, Repr

/-- `SnapshotSourcePinnedAuthority`. -/
def snapshotSourcePinnedAuthority : GoString := str "pinned_authority"

/-- `MaxSnapshotRecords`. -/
def maxSnapshotRecords : ℕ := 256

/-- `maxScopeSyncLeaseTTL`. -/
def maxScopeSyncLeaseTTL : Duration := 5 * minute

/-- `ErrScopeSyncLeaseLost`. -/
def errScopeSyncLeaseLost : GoError := .sentinel (str "scope sync lease lost")

/-- `errAuthoritativeSnapshotRollback`. -/
def errAuthoritativeSnapshotRollback : GoError :=
  .sentinel (str "rollback authoritative snapshot generation")

/-- `errAuthoritativeSnapshotAmbiguous`. -/
def errAuthoritativeSnapshotAmbiguous : GoError :=
  .sentinel (str "ambiguous authoritative snapshot generation")

/-- The errors of `putRecordTx` against a stored row. -/
def errReplayed : GoError := errorsNew "replayed record sequence"
def errConflicting : GoError := errorsNew "conflicting record at same sequence"

/-- The error for a token that another row has. -/
def errTokenTaken : GoError :=
  errorsNew "UNIQUE constraint failed: scope_sync_leases.lease_token"

namespace Discovery

/-! ## Single rows -/

/-- Insert or replace one record. -/
def putRow (d : Discovery) (key : RecordKey) (row : RecordRow) : Discovery :=
  { d with records := d.records.insert key row }

/-- Delete records. -/
def keepRecords (d : Discovery) (wanted : RecordKey → RecordRow → Bool) : Discovery :=
  { d with records := Table.keep wanted d.records }

/-- Insert or replace the freshness of a Scope. -/
def putFreshness (d : Discovery) (scope : GoString) (row : FreshnessRow) : Discovery :=
  { d with scopeFreshness := d.scopeFreshness.insert scope row }

/-- Insert or replace the counters of a Scope. -/
def putCounters (d : Discovery) (scope : GoString) (row : AuthorityRow) : Discovery :=
  { d with authoritySnapshots := d.authoritySnapshots.insert scope row }

/-- Insert or replace the lease of a Scope. -/
def putLease (d : Discovery) (scope : GoString) (row : SyncLeaseRow) : Discovery :=
  { d with scopeSyncLeases := d.scopeSyncLeases.insert scope row }

/-- Delete the lease of a Scope. -/
def deleteLease (d : Discovery) (scope : GoString) : Discovery :=
  { d with scopeSyncLeases := d.scopeSyncLeases.erase scope }

/-! ## Records -/

/-- The Scope of a record is the text of a valid one. -/
def validScopeText (text : GoString) : Bool :=
  match split 0x2F text with
  | [cluster, name] =>
    match Scope.validate ⟨cluster, name⟩ with
    | .ok () => true
    | .error _ => false
  | _ => false

/-- `validateStoredRecord`. -/
def validateStoredRecord (v : Record) (now : Time) : Except GoError Unit := do
  failIf (validScopeText v.scope = false ∨ blank v.pipeID = true ∨
      8192 < v.pipeID.length ∨ 8192 < v.name.length)
    (errorsNew "invalid record index")
  failIf (v.payload.length = 0 ∨ 64 * 1024 < v.payload.length ∨
      v.sequence = 0 ∨ int64Size ≤ v.sequence)
    (errorsNew "invalid record bounds")
  failIf (v.expiresAt.after now = false) (errorsNew "record expired")

/-- `putRecordTx`. -/
def putRecordTx (d : Discovery) (v : Record) (now : Time) : Except GoError Discovery := do
  validateStoredRecord v now
  match d.records.lookup v.key with
  | some row =>
    if v.sequence < row.sequence then .error errReplayed
    else if v.sequence = row.sequence then
      if row.payload ≠ v.payload then .error errConflicting else .ok d
    else .ok (d.putRow v.key v.row)
  | none => .ok (d.putRow v.key v.row)

/-- `putDiscoveredRecordTx`: a row that is not discovered keeps its key. -/
def putDiscoveredRecordTx (d : Discovery) (v : Record) (now : Time) : Except GoError Discovery :=
  if (d.records.lookup v.key).any (!·.discovered) then .ok d
  else d.putRecordTx { v with discovered := true } now

/-- `PutRecord`. -/
def putRecord (d : Discovery) (v : Record) (now : Time) : Except GoError Discovery :=
  d.putRecordTx v now

/-- Whether a row has expired, by the texts. -/
def expired (row : RecordRow) (now : Time) : Bool :=
  decide (row.expiresAt.text ≤ now.text)

/-- `PruneExpiredRecords`. -/
def pruneExpiredRecords (d : Discovery) (now : Time) : Discovery :=
  d.keepRecords fun _ row => !(row.discovered && expired row now)

/-! ## The authority of a Scope -/

/-- `EnsureAuthoritySnapshot`. -/
def ensureAuthoritySnapshot (d : Discovery) (scope : GoString) : Discovery :=
  { d with authoritySnapshots :=
      (Table.insertOrIgnore d.authoritySnapshots scope ⟨1, 1⟩).2 }

/-- `advanceAuthoritySnapshotTx`. -/
def advanceAuthoritySnapshotTx (d : Discovery) (scope : GoString) : Except GoError Discovery :=
  match d.authoritySnapshots.lookup scope with
  | none => .ok (d.putCounters scope ⟨1, 1⟩)
  | some row =>
    if row.generation = int64Size - 1 ∨ row.highWater = int64Size - 1 then
      .error (errorsNew "authority snapshot counter exhausted")
    else .ok (d.putCounters scope ⟨row.generation + 1, row.highWater + 1⟩)

/-- A record that the authority of a Scope owns. -/
def owns (scope : GoString) (key : RecordKey) (row : RecordRow) : Bool :=
  key.scope == scope && !row.discovered

/-- `ORDER BY name, pipe_id`. -/
def listedBefore (a b : Record) : Bool :=
  decide (a.name < b.name) || (a.name == b.name && decide (a.pipeID ≤ b.pipeID))

/-- The records that the authority of a Scope lists. -/
def listOwned (d : Discovery) (scope : GoString) (now : Time) : List Record :=
  ((d.records.entries.filter fun entry =>
      owns scope entry.1 entry.2 && !expired entry.2 now).map fun entry =>
    entry.2.record entry.1).mergeSort listedBefore

/-- What `AuthoritySnapshot` returns. -/
structure SnapshotRead where
  records : List Record
  generation : ℕ
  highWater : ℕ
  complete : Bool
  deriving DecidableEq, Repr

/-- The first statements of `AuthoritySnapshot`: expired records of the authority
are deleted, and the counters are advanced with them. -/
def pruneOwned (d : Discovery) (scope : GoString) (now : Time) : Except GoError Discovery :=
  let kept := d.keepRecords fun key row =>
    !(owns scope key row && expired row now)
  if kept.records.entries.length < d.records.entries.length then
    kept.advanceAuthoritySnapshotTx scope
  else .ok kept

/-- `AuthoritySnapshot`. -/
def authoritySnapshot (d : Discovery) (scope : GoString) (limit : ℤ)
    (now : Time) : Except GoError (SnapshotRead × Discovery) := do
  failIf (limit ≤ 0 ∨ maxSnapshotRecords < limit) (errorsNew "invalid authority snapshot limit")
  let d ← d.pruneOwned scope now
  match d.authoritySnapshots.lookup scope with
  | none => .error (errorsNew "authority snapshot not initialized")
  | some row => do
      failIf (row.generation = 0 ∨ row.highWater = 0)
        (errorsNew "invalid authority snapshot metadata")
      let records := d.listOwned scope now
      return (⟨records.take limit.toNat, row.generation, row.highWater,
        decide (records.length ≤ limit.toNat)⟩, d)

/-- `PutAuthoritativeRecord`. -/
def putAuthoritativeRecord (d : Discovery) (v : Record) (now : Time) :
    Except GoError Discovery := do
  let d ← d.putRecordTx v now
  d.advanceAuthoritySnapshotTx v.scope

/-! ## The lease of the periodic synchronisation -/

/-- `validScopeSyncLeaseInput`. -/
def validScopeSyncLeaseInput (scope holderRef processIdentity : GoString)
    (ttl : Duration) : Except GoError Unit := do
  failIf (blank scope = true ∨ 255 < scope.length ∨ blank holderRef = true ∨
      255 < holderRef.length ∨ blank processIdentity = true ∨
      4096 < processIdentity.length)
    (errorsNew "invalid scope sync lease identity")
  failIf (ttl ≤ 0 ∨ maxScopeSyncLeaseTTL < ttl) (errorsNew "invalid scope sync lease ttl")

/-- `newScopeSyncLeaseToken`, from 32 random bytes. -/
def newScopeSyncLeaseToken (random : Except GoError Bytes) : Except GoError GoString := do
  return rawURLEncode (← random)

/-- Another Scope has a lease with this token. -/
def tokenTaken (d : Discovery) (scope token : GoString) : Bool :=
  d.scopeSyncLeases.entries.any fun entry =>
    entry.1 != scope && entry.2.leaseToken == token

/-- The lease that `AcquireScopeSyncLease` asks for. -/
def askedLease (scope holderRef processIdentity token : GoString) (now : Time)
    (ttl : Duration) : ScopeSyncLease :=
  ⟨scope, holderRef, processIdentity, token, now.utc, now.utc, now.utc.add ttl⟩

/-- `AcquireScopeSyncLease`; the result is `none` if a live owner wins. -/
def acquireScopeSyncLease (d : Discovery)
    (scope holderRef processIdentity : GoString) (now : Time) (ttl : Duration)
    (random : Except GoError Bytes) :
    Except GoError (Option ScopeSyncLease × Discovery) := do
  validScopeSyncLeaseInput scope holderRef processIdentity ttl
  let token ← newScopeSyncLeaseToken random
  let lease := askedLease scope holderRef processIdentity token now ttl
  failIf (d.tokenTaken scope token = true) errTokenTaken
  match d.scopeSyncLeases.lookup scope with
  | none => return (some lease, d.putLease scope lease.row)
  | some existing =>
    if existing.expiresAt.text ≤ lease.acquiredAt.text then
      return (some lease, d.putLease scope lease.row)
    else return (none, d)

/-- `validLeaseFence`. -/
def validLeaseFence (lease : ScopeSyncLease) : Bool :=
  lease.scope != [] && lease.holderRef != [] && lease.processIdentity != [] && lease.token != []

/-- The fencing fields of a lease are the stored ones. -/
def fences (lease : ScopeSyncLease) (row : SyncLeaseRow) : Bool :=
  row.holderRef == lease.holderRef && row.holderProcessIdentity == lease.processIdentity &&
    row.leaseToken == lease.token

/-- The row that a lease names with all its fencing fields. -/
def fencedRow (d : Discovery) (lease : ScopeSyncLease) : Option SyncLeaseRow :=
  (d.scopeSyncLeases.lookup lease.scope).filter (fences lease)

/-- `RenewScopeSyncLease`. -/
def renewScopeSyncLease (d : Discovery) (lease : ScopeSyncLease) (now : Time)
    (ttl : Duration) : Except GoError (Bool × Discovery) := do
  let invalid : GoError := errorsNew "invalid scope sync lease"
  failIf (validLeaseFence lease = false) invalid
  match validScopeSyncLeaseInput lease.scope lease.holderRef lease.processIdentity ttl with
  | .error _ => .error invalid
  | .ok () =>
    let now := now.utc
    match d.fencedRow lease with
    | none => return (false, d)
    | some row =>
      if now.text < row.expiresAt.text then
        return (true, d.putLease lease.scope
          { row with renewedAt := now, expiresAt := now.add ttl })
      else return (false, d)

/-- `ReleaseScopeSyncLease`. -/
def releaseScopeSyncLease (d : Discovery) (lease : ScopeSyncLease) :
    Except GoError (Bool × Discovery) := do
  failIf (validLeaseFence lease = false) (errorsNew "invalid scope sync lease")
  match d.fencedRow lease with
  | none => return (false, d)
  | some _ => return (true, d.deleteLease lease.scope)

/-- `leaseCurrentTx`. -/
def leaseCurrentTx (d : Discovery) (lease : ScopeSyncLease) (now : Time) : Except GoError Unit := do
  failIf (validLeaseFence lease = false) errScopeSyncLeaseLost
  match d.fencedRow lease with
  | none => .error errScopeSyncLeaseLost
  | some row => failIf (row.expiresAt.after now = false) errScopeSyncLeaseLost

/-- The fence of a write, if it has a lease. -/
def fenced (d : Discovery) (lease : Option ScopeSyncLease) (now : Time) : Except GoError Unit :=
  match lease with
  | none => .ok ()
  | some lease => d.leaseCurrentTx lease now

/-! ## Refreshes -/

/-- The row of a Scope in `scope_freshness`, or the defaults of its columns. -/
def freshness (d : Discovery) (scope : GoString) : FreshnessRow :=
  (d.scopeFreshness.lookup scope).getD {}

/-- `recordSnapshotFailure`: the upsert leaves the columns of the last success
alone. -/
def recordSnapshotFailure (d : Discovery)
    (scope source errorClass : GoString) (nextRetry : Option Time)
    (lease : Option ScopeSyncLease) (now : Time) :
    Except GoError Discovery := do
  failIf (source ≠ snapshotSourcePinnedAuthority ∨ errorClass = [])
    (errorsNew "invalid discovery refresh failure")
  d.fenced lease now
  return d.putFreshness scope
    { d.freshness scope with
      lastAttempt := some now.utc, source, complete := false, errorClass,
      nextRetry := nextRetry.map Time.utc }

/-- The loop of `reconcileAuthoritativeSnapshotOnce` before its transaction. -/
def checkSnapshotRecords (scope : GoString) : List GoString → List Record → Except GoError Unit
  | _, [] => .ok ()
  | seen, record :: rest => do
      failIf (record.scope ≠ scope) (errorsNew "invalid authoritative snapshot record")
      failIf (record.pipeID ∈ seen) (errorsNew "duplicate record in authoritative snapshot")
      checkSnapshotRecords scope (record.pipeID :: seen) rest

/-- The order of snapshots, as `reconcileAuthoritativeSnapshotOnce` checks
it. -/
def checkSnapshotOrder (d : Discovery) (scope : GoString)
    (snapshot : AuthoritativeSnapshot) : Except GoError Unit :=
  match d.scopeFreshness.lookup scope with
  | none => .ok ()
  | some row => do
      failIf (snapshot.generation < row.snapshotGeneration ∨
          snapshot.highWater < row.snapshotHighWater)
        errAuthoritativeSnapshotRollback
      failIf (snapshot.generation = row.snapshotGeneration ∧ row.snapshotDigest ≠ [] ∧
          (snapshot.digest ≠ row.snapshotDigest ∨ snapshot.highWater ≠ row.snapshotHighWater))
        errAuthoritativeSnapshotAmbiguous

/-- Do something for each element, and stop at the first error. -/
def forEach {α : Type} (records : List α) (check : α → Except GoError Unit) : Except GoError Unit :=
  match records with
  | [] => .ok ()
  | record :: rest => do
      check record
      forEach rest check

/-- The loop that writes the records of a snapshot. -/
def putDiscoveredRecords (d : Discovery) (now : Time) : List Record → Except GoError Discovery
  | [] => .ok d
  | record :: rest => do
      let d ← d.putDiscoveredRecordTx record now
      d.putDiscoveredRecords now rest

/-- The two deletions after that loop: discovered records that are not in the
snapshot, and expired ones. -/
def dropDiscovered (d : Discovery) (scope : GoString) (records : List Record)
    (now : Time) : Discovery :=
  (d.keepRecords fun key row =>
    !(key.scope == scope && row.discovered &&
      !(records.map Record.pipeID).contains key.pipeID)).keepRecords
    fun key row =>
      !(key.scope == scope && row.discovered && expired row now)

/-- `reconcileAuthoritativeSnapshot`, with the lease of a periodic refresh. -/
def reconcileAuthoritativeSnapshot (d : Discovery) (scope : GoString)
    (snapshot : AuthoritativeSnapshot) (lease : Option ScopeSyncLease)
    (now : Time) : Except GoError Discovery := do
  failIf (snapshot.source ≠ snapshotSourcePinnedAuthority ∨
      snapshot.complete = false ∨ snapshot.generation = 0 ∨
      snapshot.highWater = 0 ∨ snapshot.digest.length ≠ 64 ∨
      maxSnapshotRecords < snapshot.records.length)
    (errorsNew "invalid authoritative snapshot metadata")
  checkSnapshotRecords scope [] snapshot.records
  forEach snapshot.records (validateStoredRecord · now)
  d.fenced lease now
  d.checkSnapshotOrder scope snapshot
  let d ← d.putDiscoveredRecords now snapshot.records
  let d := d.dropDiscovered scope snapshot.records now
  failIf (int64Size ≤ snapshot.generation ∨ int64Size ≤ snapshot.highWater)
    errHighBit
  return d.putFreshness scope ⟨some now.utc, some now.utc, snapshot.source, true, [], none,
      snapshot.generation, snapshot.highWater, snapshot.digest⟩

/-- `RecordSnapshotFailureWithLease`. -/
def recordSnapshotFailureWithLease (d : Discovery) (lease : ScopeSyncLease)
    (source errorClass : GoString) (nextRetry : Option Time) (now : Time) :
    Except GoError Discovery :=
  d.recordSnapshotFailure lease.scope source errorClass nextRetry (some lease) now

/-- `ReconcileAuthoritativeSnapshotWithLease`. -/
def reconcileAuthoritativeSnapshotWithLease (d : Discovery)
    (lease : ScopeSyncLease) (snapshot : AuthoritativeSnapshot) (now : Time) :
    Except GoError Discovery :=
  d.reconcileAuthoritativeSnapshot lease.scope snapshot (some lease) now

end Discovery

/-! ## The signature -/

/-- One atomic step on the discovery tables, with the clock reading of the
statement or transaction. -/
inductive DiscoveryCommand
  | putRecord (v : Record) (now : Time)
  | pruneExpiredRecords (now : Time)
  | ensureAuthoritySnapshot (scope : GoString)
  | putAuthoritativeRecord (v : Record) (now : Time)
  | authoritySnapshot (scope : GoString) (limit : ℤ) (now : Time)
  | acquire (scope holderRef processIdentity : GoString) (now : Time)
      (ttl : Duration) (random : Except GoError Bytes)
  | renew (lease : ScopeSyncLease) (now : Time) (ttl : Duration)
  | release (lease : ScopeSyncLease)
  | recordFailure (scope source errorClass : GoString)
      (nextRetry : Option Time) (now : Time)
  | recordFailureWithLease (lease : ScopeSyncLease)
      (source errorClass : GoString) (nextRetry : Option Time) (now : Time)
  | reconcile (scope : GoString) (snapshot : AuthoritativeSnapshot) (now : Time)
  | reconcileWithLease (lease : ScopeSyncLease)
      (snapshot : AuthoritativeSnapshot) (now : Time)

/-- What a command returns if it succeeds. -/
@[reducible]
def DiscoveryCommand.Out : DiscoveryCommand → Type
  | .authoritySnapshot .. => Discovery.SnapshotRead
  | .acquire .. => Option ScopeSyncLease
  | .renew .. | .release .. => Bool
  | _ => Unit

namespace Discovery

/-- The statement or transaction of a command. -/
def transaction : (c : DiscoveryCommand) → Discovery → Except GoError (c.Out × Discovery)
  | .putRecord v now, d => (d.putRecord v now).map ((), ·)
  | .pruneExpiredRecords now, d => .ok ((), d.pruneExpiredRecords now)
  | .ensureAuthoritySnapshot scope, d =>
    .ok ((), d.ensureAuthoritySnapshot scope)
  | .putAuthoritativeRecord v now, d =>
    (d.putAuthoritativeRecord v now).map ((), ·)
  | .authoritySnapshot scope limit now, d => d.authoritySnapshot scope limit now
  | .acquire scope holderRef processIdentity now ttl random, d =>
    d.acquireScopeSyncLease scope holderRef processIdentity now ttl random
  | .renew lease now ttl, d => d.renewScopeSyncLease lease now ttl
  | .release lease, d => d.releaseScopeSyncLease lease
  | .recordFailure scope source errorClass nextRetry now, d =>
    (d.recordSnapshotFailure scope source errorClass nextRetry none now).map ((), ·)
  | .recordFailureWithLease lease source errorClass nextRetry now, d =>
    (d.recordSnapshotFailureWithLease lease source errorClass nextRetry now).map ((), ·)
  | .reconcile scope snapshot now, d =>
    (d.reconcileAuthoritativeSnapshot scope snapshot none now).map ((), ·)
  | .reconcileWithLease lease snapshot now, d =>
    (d.reconcileAuthoritativeSnapshotWithLease lease snapshot now).map ((), ·)

/-- The tables after a command: a failed transaction is rolled back. -/
def effect (c : DiscoveryCommand) (d : Discovery) : Discovery :=
  match transaction c d with
  | .ok (_, after) => after
  | .error _ => d

/-- What a command returns. -/
def outcome (c : DiscoveryCommand) (d : Discovery) : Except GoError c.Out :=
  (transaction c d).map Prod.fst

variable {c : DiscoveryCommand} {d : Discovery}

theorem effect_of_ok {after : Discovery} {value : c.Out}
    (done : transaction c d = .ok (value, after)) : effect c d = after := by
  rw [effect, done]

theorem effect_of_error {error : GoError}
    (failed : transaction c d = .error error) : effect c d = d := by
  rw [effect, failed]

theorem outcome_eq_ok {value : c.Out}
    (done : outcome c d = .ok value) : ∃ after, transaction c d = .ok (value, after) := by
  unfold outcome at done
  cases result : transaction c d with
  | error error =>
    rw [result] at done
    cases done
  | ok result' =>
    rw [result] at done
    cases done
    exact ⟨result'.2, rfl⟩

theorem effect_of_outcome_error
    {error : GoError} (failed : outcome c d = .error error) : effect c d = d := by
  unfold outcome at failed
  cases result : transaction c d with
  | error error => exact effect_of_error result
  | ok result' =>
    rw [result] at failed
    cases failed

/-- A command changes nothing, or its transaction is committed. -/
theorem effect_cases (c : DiscoveryCommand) (d : Discovery) :
    effect c d = d ∨ ∃ value, transaction c d = .ok (value, effect c d) := by
  cases result : transaction c d with
  | error error => exact .inl (effect_of_error result)
  | ok result' =>
    grind [effect_of_ok]

/-- A transaction without a result. -/
theorem map_eq_ok {transaction : Except GoError Discovery} {value : Unit} {after : Discovery} :
    transaction.map ((), ·) = .ok (value, after) ↔ transaction = .ok after := by
  cases transaction with
  | error error => simp [Except.map]
  | ok result => simp [Except.map]

end Discovery

end Tubo
