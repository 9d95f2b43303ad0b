import Tubo.Store.Discovery

/-!
# What the discovery transactions write

One lemma for each transaction says what it has checked and written when it
succeeds.  `Discovery.transaction_frame` says which tables a command leaves alone.
-/

namespace Tubo

namespace Discovery

section Writes

variable {d after : Discovery} {v : Record} {now : Time} {scope : GoString}

/-! ## Records -/

/-- `PutsRecord d v after`: a record was put.  Either the row was there, or it is
newer than the row that was there. -/
inductive PutsRecord (d : Discovery) (v : Record) : Discovery → Prop
  | known (row : RecordRow) (found : d.records.lookup v.key = some row)
      (sequence : row.sequence = v.sequence) (payload : row.payload = v.payload) :
      PutsRecord d v d
  | written
      (newer : ∀ row, d.records.lookup v.key = some row → row.sequence < v.sequence) :
      PutsRecord d v (d.putRow v.key v.row)

theorem putRecordTx_eq_ok (done : d.putRecordTx v now = .ok after) :
    validateStoredRecord v now = .ok () ∧ PutsRecord d v after := by
  unfold putRecordTx at done
  simp only [bind_eq_ok] at done
  obtain ⟨⟨⟩, valid, done⟩ := done
  refine ⟨valid, ?_⟩
  split at done
  · rename_i row found
    split at done
    · cases done
    · rename_i notOlder
      split at done
      · rename_i same
        split at done
        · cases done
        · rename_i samePayload
          cases done
          exact .known row found same.symm (by simpa using samePayload)
      · rename_i different
        cases done
        refine .written fun other isOther => ?_
        grind
  · rename_i missing
    cases done
    exact .written fun other isOther => by simp [missing] at isOther

/-- A discovered record is skipped, or put. -/
theorem putDiscoveredRecordTx_eq_ok (done : d.putDiscoveredRecordTx v now = .ok after) :
    (after = d ∧ ∃ row, d.records.lookup v.key = some row ∧ row.discovered = false) ∨
    ((∀ row, d.records.lookup v.key = some row → row.discovered = true) ∧
      validateStoredRecord v now = .ok () ∧
      PutsRecord d { v with discovered := true } after) := by
  unfold putDiscoveredRecordTx at done
  split at done
  · grind [Option.any_eq_true]
  · rename_i notOwned
    refine .inr ⟨fun row found => ?_, putRecordTx_eq_ok done⟩
    simpa [found] using notOwned

/-- The errors of `validateStoredRecord`. -/
def recordErrors : List GoError :=
  [errorsNew "invalid record index", errorsNew "invalid record bounds", errorsNew "record expired"]

theorem validateStoredRecord_eq_error {error : GoError}
    (failed : validateStoredRecord v now = .error error) : error ∈ recordErrors := by
  grind [bind_eq_error, failIf_eq_error, validateStoredRecord, recordErrors]

/-- `Obstructs row v error`: a stored row makes the write of a record fail. -/
inductive Obstructs (row : RecordRow) (v : Record) : GoError → Prop
  | replayed (older : v.sequence < row.sequence) : Obstructs row v errReplayed
  | conflicting (sequence : v.sequence = row.sequence)
      (payload : row.payload ≠ v.payload) : Obstructs row v errConflicting

theorem putRecordTx_eq_error {error : GoError} (failed : d.putRecordTx v now = .error error) :
    error ∈ recordErrors ∨ ∃ row, d.records.lookup v.key = some row ∧ Obstructs row v error := by
  unfold putRecordTx at failed
  rw [bind_eq_error] at failed
  rcases failed with invalid | ⟨⟨⟩, -, failed⟩
  · exact .inl (validateStoredRecord_eq_error invalid)
  refine .inr ?_
  split at failed
  · rename_i row found
    refine ⟨row, found, ?_⟩
    split at failed
    · rename_i older
      cases failed
      exact .replayed older
    · split at failed
      · rename_i sequence
        split at failed
        · rename_i payload
          cases failed
          exact .conflicting sequence payload
        · cases failed
      · cases failed
  · cases failed

/-! ## Counters -/

theorem advance_eq_ok (done : d.advanceAuthoritySnapshotTx scope = .ok after) :
    ∃ row, after = d.putCounters scope row ∧
      ((d.authoritySnapshots.lookup scope = none ∧ row = ⟨1, 1⟩) ∨
        ∃ old, d.authoritySnapshots.lookup scope = some old ∧
          old.generation ≠ int64Size - 1 ∧ old.highWater ≠ int64Size - 1 ∧
          row = ⟨old.generation + 1, old.highWater + 1⟩) := by
  unfold advanceAuthoritySnapshotTx at done
  split at done
  · grind
  · grind

theorem putAuthoritativeRecord_eq_ok (done : d.putAuthoritativeRecord v now = .ok after) :
    ∃ middle, validateStoredRecord v now = .ok () ∧ PutsRecord d v middle ∧
      middle.advanceAuthoritySnapshotTx v.scope = .ok after := by
  grind [bind_eq_ok, putRecordTx_eq_ok, putAuthoritativeRecord]

theorem keepRecords_of_all {wanted : RecordKey → RecordRow → Bool}
    (all : ∀ entry ∈ d.records.entries, wanted entry.1 entry.2 = true) :
    d.keepRecords wanted = d := by
  have same : Table.keep wanted d.records = d.records :=
    AList.ext (List.filter_eq_self.mpr all)
  rw [keepRecords, same]

/-- Expired records of the authority are deleted, and if there are any, the
counters are advanced. -/
theorem pruneOwned_eq_ok (done : d.pruneOwned scope now = .ok after) : after = d ∨
      (d.keepRecords fun key row => !(owns scope key row && expired row now)
        ).advanceAuthoritySnapshotTx scope = .ok after := by
  unfold pruneOwned at done
  dsimp only at done
  split at done
  · exact .inr done
  · rename_i notShorter
    cases done
    refine .inl (keepRecords_of_all fun entry member => ?_)
    have sameLength := Nat.le_antisymm (List.length_filter_le _ _) (Nat.le_of_not_lt notShorter)
    exact List.length_filter_eq_length_iff.mp sameLength entry member

theorem authoritySnapshot_eq_ok {limit : ℤ} {read : SnapshotRead}
    (done : d.authoritySnapshot scope limit now = .ok (read, after)) :
    d.pruneOwned scope now = .ok after ∧ 0 < limit ∧
      ∃ row, after.authoritySnapshots.lookup scope = some row ∧
        row.generation ≠ 0 ∧ row.highWater ≠ 0 ∧
        read = ⟨(after.listOwned scope now).take limit.toNat, row.generation, row.highWater,
          decide ((after.listOwned scope now).length ≤ limit.toNat)⟩ := by
  unfold authoritySnapshot at done
  simp only [bind_eq_ok, failIf_eq_ok, not_or] at done
  obtain ⟨-, bounds, middle, pruned, done⟩ := done
  split at done
  · cases done
  · rename_i row found
    simp only [bind_eq_ok, failIf_eq_ok, not_or] at done
    obtain ⟨-, positive, done⟩ := done
    cases done
    exact ⟨pruned, by omega, row, found, positive.1, positive.2, rfl⟩

/-! ## Refreshes -/

theorem recordSnapshotFailure_eq_ok {source errorClass : GoString}
    {nextRetry : Option Time} {lease : Option ScopeSyncLease}
    (done : d.recordSnapshotFailure scope source errorClass nextRetry lease now = .ok after) :
    d.fenced lease now = .ok () ∧
      after = d.putFreshness scope { d.freshness scope with
        lastAttempt := some now.utc, source, complete := false, errorClass,
        nextRetry := nextRetry.map Time.utc } := by
  unfold recordSnapshotFailure at done
  simp only [bind_eq_ok, failIf_eq_ok] at done
  obtain ⟨-, -, ⟨⟩, current, done⟩ := done
  cases done
  exact ⟨current, rfl⟩

theorem forEach_eq_ok {α : Type} {records : List α}
    {check : α → Except GoError Unit} (done : forEach records check = .ok ()) :
    ∀ record ∈ records, check record = .ok () := by
  induction records with
  | nil => simp
  | cons record rest ih =>
    grind [bind_eq_ok, forEach]

/-- The row of an accepted snapshot. -/
def acceptedRow (snapshot : AuthoritativeSnapshot) (now : Time) : FreshnessRow :=
  ⟨some now.utc, some now.utc, snapshot.source, true, [], none,
    snapshot.generation, snapshot.highWater, snapshot.digest⟩

/-- `Reconciles d scope snapshot lease now after`: what a reconcile that succeeds
has checked and written. -/
structure Reconciles (d : Discovery) (scope : GoString)
    (snapshot : AuthoritativeSnapshot) (lease : Option ScopeSyncLease)
    (now : Time) (after : Discovery) : Prop where
  generation : snapshot.generation ≠ 0
  digest : snapshot.digest ≠ []
  records : checkSnapshotRecords scope [] snapshot.records = .ok ()
  valid : ∀ record ∈ snapshot.records, validateStoredRecord record now = .ok ()
  fence : d.fenced lease now = .ok ()
  order : d.checkSnapshotOrder scope snapshot = .ok ()
  written : ∃ middle, d.putDiscoveredRecords now snapshot.records = .ok middle ∧
    after = (middle.dropDiscovered scope snapshot.records now).putFreshness scope
      (acceptedRow snapshot now)

theorem reconcile_eq_ok {snapshot : AuthoritativeSnapshot} {lease : Option ScopeSyncLease}
    (done : d.reconcileAuthoritativeSnapshot scope snapshot lease now =
      .ok after) : Reconciles d scope snapshot lease now after := by
  unfold reconcileAuthoritativeSnapshot at done
  simp only [bind_eq_ok, failIf_eq_ok, not_or] at done
  obtain ⟨-, metadata, ⟨⟩, records, ⟨⟩, valid, ⟨⟩, fence, ⟨⟩, order, middle,
    put, -, -, done⟩ := done
  cases done
  refine ⟨metadata.2.2.1, ?_, records, forEach_eq_ok valid, fence, order, middle, put, rfl⟩
  grind

end Writes

/-! ## Leases -/

section Statements

variable {d after : Discovery} {scope holderRef processIdentity : GoString}
  {now : Time} {ttl : Duration} {random : Except GoError Bytes}
  {lease : ScopeSyncLease}

/-- The lease of a Scope is not in the way, by the texts. -/
def Expired (d : Discovery) (scope : GoString) (now : Time) : Prop :=
  ∀ row, d.scopeSyncLeases.lookup scope = some row → row.expiresAt.text ≤ now.text

theorem acquire_eq_ok {result : Option ScopeSyncLease}
    (acquired : d.acquireScopeSyncLease scope holderRef processIdentity now ttl
      random = .ok (result, after)) :
    ∃ bytes, random = .ok bytes ∧ d.tokenTaken scope (rawURLEncode bytes) = false ∧
      ((d.Expired scope now ∧ after = d.putLease scope
          (askedLease scope holderRef processIdentity (rawURLEncode bytes) now ttl).row ∧
          result = some (askedLease scope holderRef processIdentity (rawURLEncode bytes) now ttl)) ∨
        (¬d.Expired scope now ∧ after = d ∧ result = none)) := by
  unfold acquireScopeSyncLease newScopeSyncLeaseToken at acquired
  simp only [bind_eq_ok, failIf_eq_ok] at acquired
  obtain ⟨-, -, token, ⟨bytes, drawn, isToken⟩, -, unique, acquired⟩ := acquired
  cases isToken
  refine ⟨bytes, drawn, by simpa using unique, ?_⟩
  unfold Expired
  split at acquired
  · rename_i absent
    cases acquired
    exact .inl ⟨by simp [absent], rfl, rfl⟩
  · rename_i existing present
    have sameText : (askedLease scope holderRef processIdentity
        (rawURLEncode bytes) now ttl).acquiredAt.text = now.text := rfl
    rw [sameText] at acquired
    split at acquired
    · rename_i isExpired
      cases acquired
      exact .inl ⟨by simpa [present] using isExpired, rfl, rfl⟩
    · rename_i isLive
      cases acquired
      exact .inr ⟨by simpa [present] using isLive, rfl, rfl⟩

/-- A well-formed attempt to acquire succeeds exactly if no row is in the way. -/
theorem acquire_granted_iff {bytes : Bytes}
    (valid : validScopeSyncLeaseInput scope holderRef processIdentity ttl = .ok ())
    (unique : d.tokenTaken scope (rawURLEncode bytes) = false) :
    (∃ result, outcome (.acquire scope holderRef processIdentity now ttl
      (.ok bytes)) d = .ok (some result)) ↔ d.Expired scope now := by
  cases done : d.acquireScopeSyncLease scope holderRef processIdentity now ttl (.ok bytes) with
  | error error =>
    -- neither the arguments nor the token make it fail
    have drawn : newScopeSyncLeaseToken (.ok bytes) = .ok (rawURLEncode bytes) := rfl
    have fresh : failIf (d.tokenTaken scope (rawURLEncode bytes) = true)
        errTokenTaken = .ok () := failIf_of_not (by simp [unique])
    simp only [acquireScopeSyncLease, valid, drawn, fresh, ok_bind] at done
    split at done
    · cases done
    · split at done <;> cases done
  | ok result =>
    obtain ⟨granted, after⟩ := result
    have isOutcome : outcome (.acquire scope holderRef processIdentity now ttl
        (.ok bytes)) d = .ok granted := by
      rw [outcome, transaction, done]
      rfl
    grind [acquire_eq_ok]

/-- A renewal changes nothing, or it writes the row of its own token. -/
theorem renew_eq_ok {renewed : Bool}
    (done : d.renewScopeSyncLease lease now ttl = .ok (renewed, after)) :
    (renewed = false ∧ after = d ∧
        ∀ row, d.fencedRow lease = some row → ¬now.text < row.expiresAt.text) ∨
      ∃ row, renewed = true ∧ d.fencedRow lease = some row ∧
        now.text < row.expiresAt.text ∧ after = d.putLease lease.scope
          { row with renewedAt := now.utc, expiresAt := now.utc.add ttl } := by
  unfold renewScopeSyncLease at done
  simp only [bind_eq_ok, failIf_eq_ok] at done
  obtain ⟨-, -, done⟩ := done
  split at done
  · cases done
  have sameText : now.utc.text = now.text := rfl
  rw [sameText] at done
  split at done
  · rename_i missing
    cases done
    exact .inl ⟨rfl, rfl, by simp [missing]⟩
  · rename_i row present
    split at done
    · rename_i isLive
      cases done
      exact .inr ⟨row, rfl, present, isLive, rfl⟩
    · rename_i isExpired
      cases done
      exact .inl ⟨rfl, rfl, by simpa [present] using isExpired⟩

/-- A well-formed renewal by the recorded holder succeeds exactly if the row has
not expired. -/
theorem renew_done_iff {row : SyncLeaseRow} (fence : validLeaseFence lease = true)
    (valid : validScopeSyncLeaseInput lease.scope lease.holderRef
      lease.processIdentity ttl = .ok ())
    (recorded : d.fencedRow lease = some row) :
    outcome (.renew lease now ttl) d = .ok true ↔ now.text < row.expiresAt.text := by
  cases done : d.renewScopeSyncLease lease now ttl with
  | error error =>
    have isFence : failIf (validLeaseFence lease = false)
        (errorsNew "invalid scope sync lease") = .ok () :=
      failIf_of_not (by simp [fence])
    simp only [renewScopeSyncLease, isFence, valid, recorded, ok_bind] at done
    split at done <;> cases done
  | ok result =>
    obtain ⟨renewed, after⟩ := result
    have isOutcome : outcome (.renew lease now ttl) d = .ok renewed := by
      rw [outcome, transaction, done]
      rfl
    grind [renew_eq_ok]

theorem release_eq_ok {released : Bool}
    (done : d.releaseScopeSyncLease lease = .ok (released, after)) :
    (released = false ∧ after = d ∧ d.fencedRow lease = none) ∨
      ∃ row, released = true ∧ d.fencedRow lease = some row ∧
        after = d.deleteLease lease.scope := by
  unfold releaseScopeSyncLease at done
  simp only [bind_eq_ok, failIf_eq_ok] at done
  obtain ⟨-, -, done⟩ := done
  split at done
  · rename_i missing
    cases done
    exact .inl ⟨rfl, rfl, missing⟩
  · rename_i row present
    cases done
    exact .inr ⟨row, rfl, present, rfl⟩

/-- A lease that is current is the stored one, and it has not expired. -/
theorem leaseCurrentTx_eq_ok (current : d.leaseCurrentTx lease now = .ok ()) :
    ∃ row, d.fencedRow lease = some row ∧ row.expiresAt.after now = true := by
  grind [bind_eq_ok, failIf_eq_ok, leaseCurrentTx]

/-- The row that a lease names has its fencing fields. -/
theorem fencedRow_eq_some {row : SyncLeaseRow} (recorded : d.fencedRow lease = some row) :
    d.scopeSyncLeases.lookup lease.scope = some row ∧ row.holderRef = lease.holderRef ∧
      row.holderProcessIdentity = lease.processIdentity ∧
      row.leaseToken = lease.token := by
  grind [Option.filter_eq_some_iff, fencedRow, fences]

end Statements

/-! ## Tables that stay -/

/-- A table. -/
inductive Part
  | records
  | freshness
  | counters
  | leases
  deriving DecidableEq

/-- Only the given tables may differ. -/
structure SameBut (parts : List Part) (d after : Discovery) : Prop where
  records : .records ∉ parts → after.records = d.records
  freshness : .freshness ∉ parts → after.scopeFreshness = d.scopeFreshness
  counters : .counters ∉ parts → after.authoritySnapshots = d.authoritySnapshots
  leases : .leases ∉ parts → after.scopeSyncLeases = d.scopeSyncLeases

/-- The tables that a command may change. -/
def changed : DiscoveryCommand → List Part
  | .putRecord .. | .pruneExpiredRecords _ => [.records]
  | .ensureAuthoritySnapshot _ => [.counters]
  | .putAuthoritativeRecord .. | .authoritySnapshot .. => [.records, .counters]
  | .acquire .. | .renew .. | .release .. => [.leases]
  | .recordFailure .. | .recordFailureWithLease .. => [.freshness]
  | .reconcile .. | .reconcileWithLease .. => [.records, .freshness]

section Frame

variable {d after : Discovery} {parts : List Part}

theorem SameBut.refl (parts : List Part) (d : Discovery) : SameBut parts d d :=
  ⟨fun _ => rfl, fun _ => rfl, fun _ => rfl, fun _ => rfl⟩

theorem SameBut.trans {last : Discovery} (first : SameBut parts d after)
    (second : SameBut parts after last) : SameBut parts d last :=
  ⟨fun other => (second.records other).trans (first.records other),
    fun other => (second.freshness other).trans (first.freshness other),
    fun other => (second.counters other).trans (first.counters other),
    fun other => (second.leases other).trans (first.leases other)⟩

theorem PutsRecord.sameBut {v : Record} (puts : PutsRecord d v after)
    (member : .records ∈ parts) : SameBut parts d after := by
  cases puts with
  | known => exact .refl parts d
  | written => exact ⟨absurd member, fun _ => rfl, fun _ => rfl, fun _ => rfl⟩

theorem putDiscoveredRecords_sameBut {records : List Record} {now : Time}
    (done : d.putDiscoveredRecords now records = .ok after)
    (member : .records ∈ parts) : SameBut parts d after := by
  induction records generalizing d with
  | nil =>
    cases done
    exact .refl parts _
  | cons record rest ih =>
    rw [putDiscoveredRecords] at done
    simp only [bind_eq_ok] at done
    obtain ⟨middle, put, done⟩ := done
    refine SameBut.trans ?_ (ih done)
    rcases putDiscoveredRecordTx_eq_ok put with ⟨rfl, -⟩ | ⟨-, -, puts⟩
    · exact .refl parts middle
    · exact puts.sameBut member

theorem advance_sameBut {scope : GoString} (done : d.advanceAuthoritySnapshotTx scope = .ok after)
    (member : .counters ∈ parts) : SameBut parts d after := by
  obtain ⟨row, rfl, -⟩ := advance_eq_ok done
  exact ⟨fun _ => rfl, fun _ => rfl, absurd member, fun _ => rfl⟩

theorem Reconciles.sameBut {scope : GoString}
    {snapshot : AuthoritativeSnapshot} {lease : Option ScopeSyncLease}
    {now : Time} (reconciles : Reconciles d scope snapshot lease now after) :
    SameBut [.records, .freshness] d after := by
  obtain ⟨middle, put, rfl⟩ := reconciles.written
  refine (putDiscoveredRecords_sameBut put (by simp)).trans ?_
  exact ⟨by simp, by simp, fun _ => rfl, fun _ => rfl⟩

/-- **Frame.**  A command leaves the other tables alone. -/
theorem transaction_frame {c : DiscoveryCommand} {value : c.Out}
    (done : transaction c d = .ok (value, after)) : SameBut (changed c) d after := by
  cases c with
  | putRecord v now =>
    exact (putRecordTx_eq_ok (map_eq_ok.mp done)).2.sameBut (by simp [changed])
  | pruneExpiredRecords now =>
    cases done
    exact ⟨by simp [changed], fun _ => rfl, fun _ => rfl, fun _ => rfl⟩
  | ensureAuthoritySnapshot scope =>
    cases done
    exact ⟨fun _ => rfl, fun _ => rfl, by simp [changed], fun _ => rfl⟩
  | putAuthoritativeRecord v now =>
    obtain ⟨middle, -, puts, advanced⟩ :=
      putAuthoritativeRecord_eq_ok (map_eq_ok.mp done)
    exact (puts.sameBut (by simp [changed])).trans (advance_sameBut advanced (by simp [changed]))
  | authoritySnapshot scope limit now =>
    obtain ⟨pruned, -⟩ := authoritySnapshot_eq_ok done
    rcases pruneOwned_eq_ok pruned with rfl | advanced
    · exact .refl _ _
    · refine SameBut.trans ?_ (advance_sameBut advanced (by simp [changed]))
      exact ⟨by simp [changed], fun _ => rfl, fun _ => rfl, fun _ => rfl⟩
  | acquire scope holderRef processIdentity now ttl random =>
    obtain ⟨_, -, -, ⟨-, rfl, -⟩ | ⟨-, rfl, -⟩⟩ := acquire_eq_ok done
    · exact ⟨fun _ => rfl, fun _ => rfl, fun _ => rfl, by simp [changed]⟩
    · exact .refl _ _
  | renew lease now ttl =>
    rcases renew_eq_ok done with ⟨-, rfl, -⟩ | ⟨_, -, -, -, rfl⟩
    · exact .refl _ _
    · exact ⟨fun _ => rfl, fun _ => rfl, fun _ => rfl, by simp [changed]⟩
  | release lease =>
    rcases release_eq_ok done with ⟨-, rfl, -⟩ | ⟨_, -, -, rfl⟩
    · exact .refl _ _
    · exact ⟨fun _ => rfl, fun _ => rfl, fun _ => rfl, by simp [changed]⟩
  | recordFailure scope source errorClass nextRetry now =>
    obtain ⟨-, rfl⟩ := recordSnapshotFailure_eq_ok (map_eq_ok.mp done)
    exact ⟨fun _ => rfl, by simp [changed], fun _ => rfl, fun _ => rfl⟩
  | recordFailureWithLease lease source errorClass nextRetry now =>
    obtain ⟨-, rfl⟩ := recordSnapshotFailure_eq_ok (map_eq_ok.mp done)
    exact ⟨fun _ => rfl, by simp [changed], fun _ => rfl, fun _ => rfl⟩
  | reconcile scope snapshot now =>
    exact (reconcile_eq_ok (map_eq_ok.mp done)).sameBut
  | reconcileWithLease lease snapshot now =>
    exact (reconcile_eq_ok (map_eq_ok.mp done)).sameBut

theorem effect_frame (c : DiscoveryCommand) (d : Discovery) :
    SameBut (changed c) d (effect c d) := by
  rcases effect_cases c d with same | ⟨value, done⟩
  · rw [same]
    exact .refl _ d
  · exact transaction_frame done

end Frame

end Discovery

end Tubo
