import Tubo.Concurrency.Run
import Tubo.Store.DiscoveryWrites

/-!
# Snapshots at the client

A client offers the snapshots of the pinned authority to its store, with
`ReconcileAuthoritativeSnapshot`, and records failed refreshes there.

* `snapshots_in_order` — over every run, the accepted generation and high-water
  mark never decrease, a generation stands for one digest, and what is not
  accepted leaves no trace in the records;
* `reconcile_replaces` — an accepted snapshot replaces exactly the discovered
  records of its Scope.
-/

namespace Tubo

open Concurrency

namespace Discovery

/-! ## The order of snapshots -/

/-- The Scope and the snapshot that a call offers, with its clock reading. -/
def offered : DiscoveryCommand → Option (GoString × AuthoritativeSnapshot × Time)
  | .reconcile scope snapshot now => some (scope, snapshot, now)
  | .reconcileWithLease lease snapshot now => some (lease.scope, snapshot, now)
  | _ => none

/-- The call records a failed refresh. -/
def recordsFailure : DiscoveryCommand → Bool
  | .recordFailure .. | .recordFailureWithLease .. => true
  | _ => false

/-- `Advances row later`: the accepted snapshot of a Scope moved forward, or it is
the same. -/
structure Advances (row later : FreshnessRow) : Prop where
  generation : row.snapshotGeneration ≤ later.snapshotGeneration
  highWater : row.snapshotHighWater ≤ later.snapshotHighWater
  digest : row.snapshotDigest ≠ [] → row.snapshotGeneration = later.snapshotGeneration →
    later.snapshotDigest = row.snapshotDigest ∧ later.snapshotHighWater = row.snapshotHighWater

theorem Advances.refl (row : FreshnessRow) : Advances row row :=
  ⟨le_rfl, le_rfl, fun _ _ => ⟨rfl, rfl⟩⟩

theorem Advances.trans {row later last : FreshnessRow}
    (first : Advances row later) (second : Advances later last) : Advances row last := by
  refine ⟨first.generation.trans second.generation,
    first.highWater.trans second.highWater, fun present same => ?_⟩
  have between : row.snapshotGeneration = later.snapshotGeneration :=
    Nat.le_antisymm first.generation (same ▸ second.generation)
  obtain ⟨digest, highWater⟩ := first.digest present between
  grind [Advances.digest]

/-- The accepted snapshot and the time of the last success are the same. -/
structure SameAccepted (row later : FreshnessRow) : Prop where
  generation : later.snapshotGeneration = row.snapshotGeneration
  highWater : later.snapshotHighWater = row.snapshotHighWater
  digest : later.snapshotDigest = row.snapshotDigest
  lastSuccess : later.lastSuccess = row.lastSuccess

theorem SameAccepted.refl (row : FreshnessRow) : SameAccepted row row :=
  ⟨rfl, rfl, rfl, rfl⟩

theorem SameAccepted.advances {row later : FreshnessRow}
    (same : SameAccepted row later) : Advances row later :=
  ⟨same.generation.ge, same.highWater.ge, fun _ _ =>
    ⟨same.digest, same.highWater⟩⟩

section Step

variable {d after : Discovery} {scope : GoString} {c : DiscoveryCommand}

@[simp]
theorem freshness_putFreshness_self (row : FreshnessRow) :
    (d.putFreshness scope row).freshness scope = row := by
  simp [freshness, putFreshness]

theorem freshness_putFreshness_of_ne {other : GoString} (row : FreshnessRow)
    (different : other ≠ scope) :
    (d.putFreshness scope row).freshness other = d.freshness other := by
  simp [freshness, putFreshness, AList.lookup_insert_ne different]

variable {snapshot : AuthoritativeSnapshot} {now : Time}

/-- A snapshot that is in order advances what is stored. -/
theorem checkSnapshotOrder_eq_ok
    (ordered : d.checkSnapshotOrder scope snapshot = .ok ()) (now : Time) :
    Advances (d.freshness scope) (acceptedRow snapshot now) := by
  unfold checkSnapshotOrder at ordered
  unfold freshness
  split at ordered
  · rename_i missing
    rw [missing]
    exact ⟨Nat.zero_le _, Nat.zero_le _, fun present => absurd rfl present⟩
  · rename_i row found
    simp only [bind_eq_ok, failIf_eq_ok, not_or, not_lt] at ordered
    obtain ⟨-, ⟨generation, highWater⟩, unambiguous⟩ := ordered
    rw [found]
    refine ⟨generation, highWater, fun present same => ?_⟩
    by_contra different
    refine unambiguous ⟨same.symm, present, ?_⟩
    rw [← not_and_or]
    exact different

/-- A call that offers a snapshot and succeeds has reconciled it. -/
theorem reconciles_of_offered {value : c.Out} (isOffer : offered c = some (scope, snapshot, now))
    (done : transaction c d = .ok (value, after)) :
    ∃ lease, Reconciles d scope snapshot lease now after := by
  cases c with
  | reconcile scope' snapshot' now' =>
    cases isOffer
    exact ⟨none, reconcile_eq_ok (map_eq_ok.mp done)⟩
  | reconcileWithLease lease snapshot' now' =>
    cases isOffer
    exact ⟨some lease, reconcile_eq_ok (map_eq_ok.mp done)⟩
  | _ => cases isOffer

/-- An accepted snapshot is stored. -/
theorem Reconciles.freshness {lease : Option ScopeSyncLease}
    (reconciles : Reconciles d scope snapshot lease now after) (other : GoString) :
    after.freshness other =
      if other = scope then acceptedRow snapshot now
      else d.freshness other := by
  obtain ⟨middle, put, rfl⟩ := reconciles.written
  have frame : SameBut [.records] d middle :=
    putDiscoveredRecords_sameBut put (by simp)
  grind [SameBut.freshness, freshness_putFreshness_self, freshness_putFreshness_of_ne, freshness,
    dropDiscovered, keepRecords]

/-- A recorded failure keeps the last success. -/
theorem failure_keeps (isFailure : recordsFailure c = true) :
    (effect c d).records = d.records ∧ ∀ other,
      SameAccepted (d.freshness other) ((effect c d).freshness other) := by
  have records : (effect c d).records = d.records :=
    (effect_frame c d).records (by cases c <;> simp_all [recordsFailure, changed])
  refine ⟨records, fun other => ?_⟩
  rcases effect_cases c d with same | ⟨value, done⟩
  · rw [same]
    exact .refl _
  have written {scope source errorClass : GoString} {nextRetry : Option Time}
      {lease : Option ScopeSyncLease} {now : Time}
      (done : d.recordSnapshotFailure scope source errorClass nextRetry lease
        now = .ok (effect c d)) :
      SameAccepted (d.freshness other) ((effect c d).freshness other) := by
    obtain ⟨-, after⟩ := recordSnapshotFailure_eq_ok done
    rw [after]
    by_cases isScope : other = scope
    · subst isScope
      rw [freshness_putFreshness_self]
      exact ⟨rfl, rfl, rfl, rfl⟩
    · rw [freshness_putFreshness_of_ne _ isScope]
      exact .refl _
  cases c with
  | recordFailure scope source errorClass nextRetry now =>
    exact written (map_eq_ok.mp done)
  | recordFailureWithLease lease source errorClass nextRetry now =>
    exact written (map_eq_ok.mp done)
  | _ => cases isFailure

/-- **One step.**  A command accepts a snapshot for a Scope, or leaves the accepted
one alone. -/
theorem effect_accepts (c : DiscoveryCommand) (d : Discovery) (scope : GoString) :
    SameAccepted (d.freshness scope) ((effect c d).freshness scope) ∨
      ∃ snapshot lease now, offered c = some (scope, snapshot, now) ∧
        Reconciles d scope snapshot lease now (effect c d) := by
  rcases effect_cases c d with same | ⟨value, done⟩
  · rw [same]
    exact .inl (.refl _)
  have accepted {other : GoString} {snapshot : AuthoritativeSnapshot}
      {now : Time} (isOffer : offered c = some (other, snapshot, now)) :
      SameAccepted (d.freshness scope) ((effect c d).freshness scope) ∨
        ∃ snapshot lease now, offered c = some (scope, snapshot, now) ∧
          Reconciles d scope snapshot lease now (effect c d) := by
    obtain ⟨lease, reconciles⟩ := reconciles_of_offered isOffer done
    by_cases isScope : scope = other
    · grind
    · rw [reconciles.freshness, if_neg isScope]
      exact .inl (.refl _)
  cases c with
  | reconcile other snapshot now => exact accepted rfl
  | reconcileWithLease lease snapshot now => exact accepted rfl
  | recordFailure other source errorClass nextRetry now =>
    exact .inl ((failure_keeps rfl).2 scope)
  | recordFailureWithLease lease source errorClass nextRetry now =>
    exact .inl ((failure_keeps rfl).2 scope)
  | _ =>
    rw [freshness, freshness, (transaction_frame done).freshness (by simp [changed])]
    exact .inl (.refl _)

/-- No command takes an accepted snapshot back. -/
theorem effect_advances (c : DiscoveryCommand) (d : Discovery) (scope : GoString) :
    Advances (d.freshness scope) ((effect c d).freshness scope) := by
  rcases effect_accepts c d scope with
    same | ⟨snapshot, lease, now, -, reconciles⟩
  · exact same.advances
  · rw [reconciles.freshness, if_pos rfl]
    exact checkSnapshotOrder_eq_ok reconciles.order now

end Step

/-- **Snapshots in order.**  In every run: the accepted generation and high-water
mark of a Scope never decrease; two snapshots accepted at one generation have one
digest and one high-water mark; a snapshot that is rejected changes nothing; and a
recorded failure changes neither the records nor the accepted snapshot nor the
time of the last success. -/
theorem snapshots_in_order (start : Discovery) (calls : List DiscoveryCommand) :
    (∀ i j scope, i ≤ j → ((stateAt effect start calls i).freshness scope).snapshotGeneration ≤
        ((stateAt effect start calls j).freshness scope).snapshotGeneration ∧
      ((stateAt effect start calls i).freshness scope).snapshotHighWater ≤
        ((stateAt effect start calls j).freshness scope).snapshotHighWater) ∧
    (∀ i j c c' scope snapshot snapshot' now now' value value', i ≤ j →
      calls[i]? = some c → calls[j]? = some c' →
      offered c = some (scope, snapshot, now) →
      offered c' = some (scope, snapshot', now') →
      outcome c (stateAt effect start calls i) = .ok value →
      outcome c' (stateAt effect start calls j) = .ok value' →
      snapshot.generation = snapshot'.generation →
      snapshot.digest = snapshot'.digest ∧ snapshot.highWater = snapshot'.highWater) ∧
    (∀ k c offer error, calls[k]? = some c → offered c = some offer →
      outcome c (stateAt effect start calls k) = .error error →
      stateAt effect start calls (k + 1) = stateAt effect start calls k) ∧
    ∀ k c, calls[k]? = some c → recordsFailure c = true →
      (stateAt effect start calls (k + 1)).records = (stateAt effect start calls k).records ∧
      ∀ scope, SameAccepted ((stateAt effect start calls k).freshness scope)
        ((stateAt effect start calls (k + 1)).freshness scope) := by
  have advances {i j : ℕ} (scope : GoString) (le : i ≤ j) :
      Advances ((stateAt effect start calls i).freshness scope)
        ((stateAt effect start calls j).freshness scope) :=
    stateAt_related (R := fun d after : Discovery =>
      Advances (d.freshness scope) (after.freshness scope)) (fun _ => .refl _)
      .trans (fun _ c _ => effect_advances c _ scope) le
  refine ⟨fun i j scope le => ⟨(advances scope le).generation,
    (advances scope le).highWater⟩, ?_, ?_, ?_⟩
  · intro i j c c' scope snapshot snapshot' now now' value value' le foundI foundJ
      isOffer isOffer' accepted accepted' sameGeneration
    rcases le.eq_or_lt with same | less
    · grind
    obtain ⟨after, done⟩ := outcome_eq_ok accepted
    obtain ⟨lease, first⟩ := reconciles_of_offered isOffer done
    obtain ⟨after', done'⟩ := outcome_eq_ok accepted'
    obtain ⟨lease', second⟩ := reconciles_of_offered isOffer' done'
    -- from the row that the first one wrote to the row of the second one
    have between := advances scope (Nat.succ_le_of_lt less)
    rw [stateAt_succ foundI, effect_of_ok done, first.freshness, if_pos rfl] at between
    obtain ⟨digest, highWater⟩ :=
      (between.trans (checkSnapshotOrder_eq_ok second.order now')).digest
        first.digest sameGeneration
    exact ⟨digest.symm, highWater.symm⟩
  · grind [stateAt_succ, effect_of_outcome_error]
  · grind [stateAt_succ, failure_keeps]

/-- `AcceptedFrom offers row`: the accepted snapshot of a Scope is one of
`offers`, or there is none. -/
def AcceptedFrom (offers : AuthoritativeSnapshot → Prop) (row : FreshnessRow) : Prop :=
  row.snapshotDigest = [] ∨ ∃ snapshot, offers snapshot ∧
    row.snapshotGeneration = snapshot.generation ∧
    row.snapshotHighWater = snapshot.highWater ∧
    row.snapshotDigest = snapshot.digest

/-- The accepted snapshot of a Scope has been offered. -/
theorem stateAt_acceptedFrom {offers : AuthoritativeSnapshot → Prop}
    {start : Discovery} {calls : List DiscoveryCommand} {scope : GoString}
    (holds : AcceptedFrom offers (start.freshness scope)) (offered_of : ∀ c ∈ calls, ∀ snapshot now,
      offered c = some (scope, snapshot, now) → offers snapshot) (k : ℕ) :
    AcceptedFrom offers ((stateAt effect start calls k).freshness scope) := by
  refine stateAt_invariant
    (I := fun d : Discovery => AcceptedFrom offers (d.freshness scope)) holds ?_ k
  intro c member d accepted
  rcases effect_accepts c d scope with
    same | ⟨snapshot, lease, now, isOffer, reconciles⟩
  · unfold AcceptedFrom
    rw [same.generation, same.highWater, same.digest]
    exact accepted
  · rw [reconciles.freshness, if_pos rfl]
    exact .inr ⟨snapshot, offered_of c member snapshot now isOffer, rfl, rfl, rfl⟩

/-! ## Exact replacement -/

/-- The records of a snapshot are of its Scope, and no two are of one Pipe. -/
theorem checkSnapshotRecords_eq_ok {scope : GoString} {seen : List GoString} {records : List Record}
    (checked : checkSnapshotRecords scope seen records = .ok ()) :
    (∀ record ∈ records, record.scope = scope ∧ record.pipeID ∉ seen) ∧
      (records.map Record.key).Nodup := by
  induction records generalizing seen with
  | nil => simp
  | cons record rest ih =>
    rw [checkSnapshotRecords] at checked
    simp only [bind_eq_ok, failIf_eq_ok, not_not] at checked
    obtain ⟨-, isScope, -, unseen, checked⟩ := checked
    obtain ⟨each, distinct⟩ := ih checked
    refine ⟨?_, ?_⟩
    · grind
    · rw [List.map_cons, List.nodup_cons]
      refine ⟨fun member => ?_, distinct⟩
      obtain ⟨other, isOther, sameKey⟩ := List.mem_map.mp member
      refine (each other isOther).2 ?_
      rw [show other.pipeID = record.pipeID from
        congrArg RecordKey.pipeID sameKey]
      exact List.mem_cons_self

/-- No other row than a discovered one has the key. -/
def Replaceable (d : Discovery) (key : RecordKey) : Prop :=
  ∀ row, d.records.lookup key = some row → row.discovered = true

/-- A row is the one that is stored for a discovered record. -/
structure Holds (row : RecordRow) (record : Record) : Prop where
  discovered : row.discovered = true
  payload : row.payload = record.payload
  sequence : row.sequence = record.sequence

/-- `Loads d records after`: what the loop over the records of a snapshot does.
`other` and `owned` say which rows it leaves alone; `put` says that the row of a
record is written or was there. -/
structure Loads (d : Discovery) (records : List Record) (after : Discovery) :
    Prop where
  other : ∀ key, key ∉ records.map Record.key → after.records.lookup key = d.records.lookup key
  owned : ∀ key row, row.discovered = false →
    (after.records.lookup key = some row ↔ d.records.lookup key = some row)
  put : ∀ record ∈ records, d.Replaceable record.key →
    ∃ row, after.records.lookup record.key = some row ∧ Holds row record ∧
      (row.expiresAt = record.expiresAt.utc ∨ d.records.lookup record.key = some row)

section Loads

variable {d after : Discovery} {now : Time}

/-- One round of the loop. -/
theorem putDiscoveredRecordTx_loads {record : Record}
    (done : d.putDiscoveredRecordTx record now = .ok after) : Loads d [record] after := by
  rcases putDiscoveredRecordTx_eq_ok done with
    ⟨rfl, row, found, owned⟩ | ⟨replaceable, -, puts⟩
  · refine ⟨fun _ _ => rfl, fun _ _ _ => Iff.rfl, ?_⟩
    intro other member replaceable
    obtain rfl := List.mem_singleton.mp member
    rw [replaceable row found] at owned
    cases owned
  cases puts with
  | known row found sequence payload =>
    refine ⟨fun _ _ => rfl, fun _ _ _ => Iff.rfl, ?_⟩
    intro other member _
    obtain rfl := List.mem_singleton.mp member
    exact ⟨row, found, ⟨replaceable row found, payload, sequence⟩, .inr found⟩
  | written newer =>
    have sameKey : ({ record with discovered := true } : Record).key =
        record.key := rfl
    rw [sameKey]
    refine ⟨?_, ?_, ?_⟩
    · intro key notKey
      exact AList.lookup_insert_ne (by simpa using notKey)
    · intro key row owned
      by_cases isKey : key = record.key
      · subst isKey
        rw [putRow, AList.lookup_insert]
        constructor
        · rintro ⟨⟩
          cases owned
        · grind
      · rw [putRow, AList.lookup_insert_ne isKey]
    · intro other member _
      obtain rfl := List.mem_singleton.mp member
      exact ⟨_, AList.lookup_insert _, ⟨rfl, rfl, rfl⟩, .inl rfl⟩

/-- The loop, for records with different keys. -/
theorem putDiscoveredRecords_loads {records : List Record}
    (distinct : (records.map Record.key).Nodup)
    (done : d.putDiscoveredRecords now records = .ok after) : Loads d records after := by
  induction records generalizing d with
  | nil =>
    cases done
    exact ⟨fun _ _ => rfl, fun _ _ _ => Iff.rfl, by simp⟩
  | cons record rest ih =>
    rw [List.map_cons, List.nodup_cons] at distinct
    rw [putDiscoveredRecords] at done
    simp only [bind_eq_ok] at done
    obtain ⟨middle, first, done⟩ := done
    have first := putDiscoveredRecordTx_loads first
    have loads := ih distinct.2 done
    refine ⟨?_, ?_, ?_⟩
    · intro key notKey
      rw [List.map_cons, List.mem_cons, not_or] at notKey
      rw [loads.other key notKey.2, first.other key (by simpa using notKey.1)]
    · intro key row owned
      rw [loads.owned key row owned, first.owned key row owned]
    · rintro other (_ | ⟨_, member⟩) replaceable
      · -- the rest does not touch the key of this record
        grind [Loads.other, Loads.put, List.mem_cons_self]
      · have different : other.key ∉ [record].map Record.key := by
          rw [List.map_singleton, List.mem_singleton]
          intro sameKey
          exact distinct.1 (sameKey ▸ List.mem_map_of_mem member)
        have same := first.other other.key different
        rw [← same]
        refine loads.put other member fun row found => replaceable row ?_
        rwa [same] at found

end Loads

/-- The rows after the deletions. -/
theorem dropDiscovered_lookup (d : Discovery) (scope : GoString)
    (records : List Record) (now : Time) (key : RecordKey) (row : RecordRow) :
    (d.dropDiscovered scope records now).records.lookup key = some row ↔
      d.records.lookup key = some row ∧ (key.scope = scope → row.discovered = true →
          key.pipeID ∈ records.map Record.pipeID ∧ expired row now = false) := by
  unfold dropDiscovered keepRecords
  rw [Table.keep_lookup, Option.filter_eq_some_iff, Table.keep_lookup, Option.filter_eq_some_iff]
  constructor
  · grind
  · grind

/-- The expiry of a record is determined by its payload, among the records of a
snapshot and the rows with their keys. -/
def PayloadDetermines (d : Discovery) (records : List Record) : Prop :=
  ∀ record ∈ records, ∀ row, d.records.lookup record.key = some row → row.payload = record.payload →
    row.expiresAt.instant = record.expiresAt.instant

section Replaces

variable {d after : Discovery} {scope : GoString}
  {snapshot : AuthoritativeSnapshot} {lease : Option ScopeSyncLease} {now : Time}

section

variable (reconciles : Reconciles d scope snapshot lease now after)

include reconciles

/-- The rows after an accepted snapshot, in terms of the rows of the loop. -/
theorem Reconciles.loads :
    ∃ middle, Loads d snapshot.records middle ∧ ∀ key row, after.records.lookup key = some row ↔
        middle.records.lookup key = some row ∧ (key.scope = scope → row.discovered = true →
            key.pipeID ∈ snapshot.records.map Record.pipeID ∧ expired row now = false) := by
  obtain ⟨middle, put, rfl⟩ := reconciles.written
  exact ⟨middle, putDiscoveredRecords_loads (checkSnapshotRecords_eq_ok reconciles.records).2 put,
    dropDiscovered_lookup middle scope snapshot.records now⟩

/-- The key of a record of an accepted snapshot. -/
theorem Reconciles.key {record : Record} (member : record ∈ snapshot.records) :
    record.key = ⟨scope, record.pipeID⟩ := by
  rw [← ((checkSnapshotRecords_eq_ok reconciles.records).1 record member).1]
  rfl

/-- A discovered row of the Scope is that of a record. -/
theorem Reconciles.discovered
    {pipeID : GoString} {row : RecordRow} (found : after.records.lookup ⟨scope, pipeID⟩ = some row)
    (isDiscovered : row.discovered = true) :
    ∃ record ∈ snapshot.records, record.pipeID = pipeID ∧ Holds row record ∧
      d.Replaceable ⟨scope, pipeID⟩ := by
  obtain ⟨middle, loads, rows⟩ := reconciles.loads
  obtain ⟨foundMiddle, kept⟩ := (rows _ _).mp found
  obtain ⟨record, member, rfl⟩ := List.mem_map.mp (kept rfl isDiscovered).1
  have replaceable : d.Replaceable ⟨scope, record.pipeID⟩ := by
    intro old foundOld
    grind [Loads.owned]
  grind [Loads.put, Reconciles.key]

/-- The rows of another Scope stay. -/
theorem Reconciles.other {key : RecordKey}
    (different : key.scope ≠ scope) : after.records.lookup key = d.records.lookup key := by
  obtain ⟨middle, loads, rows⟩ := reconciles.loads
  have untouched : key ∉ snapshot.records.map Record.key := by
    intro isKey
    obtain ⟨record, member, rfl⟩ := List.mem_map.mp isKey
    exact different (by rw [reconciles.key member])
  refine Option.ext fun row => ?_
  rw [rows, loads.other key untouched]
  simp [different]

/-- The row of a record has not expired. -/
theorem Reconciles.live (determined : d.PayloadDetermines snapshot.records) {record : Record}
    (member : record ∈ snapshot.records)
    (instants : record.expiresAt.InTextOrder now) {row : RecordRow} (holds : Holds row record)
    (expiry : row.expiresAt = record.expiresAt.utc ∨
      d.records.lookup record.key = some row) : expired row now = false := by
  have sameInstant : row.expiresAt.instant = record.expiresAt.instant := by
    rcases expiry with written | found
    · rw [written]
      rfl
    · exact determined record member row found holds.payload
  have valid := reconciles.valid record member
  unfold validateStoredRecord at valid
  simp only [bind_eq_ok, failIf_eq_ok, Bool.not_eq_false, Time.after_iff] at valid
  obtain ⟨-, -, -, -, isLive⟩ := valid
  rw [expired, decide_eq_false_iff_not, Time.text_congr sameInstant, instants.not, Int.not_le]
  exact isLive

end

end Replaces

/-- **Exact replacement.**  After an accepted snapshot the discovered rows of the
Scope are those of its records whose Pipe has no other row; every other row is
unchanged.  After an error everything is unchanged. -/
theorem reconcile_replaces (d : Discovery) (c : DiscoveryCommand)
    (scope : GoString) (snapshot : AuthoritativeSnapshot) (now : Time)
    (isOffer : offered c = some (scope, snapshot, now))
    (determined : d.PayloadDetermines snapshot.records)
    (instants : ∀ record ∈ snapshot.records, record.expiresAt.InTextOrder now) :
    (∀ value, outcome c d = .ok value →
      (∀ pipeID row, (effect c d).records.lookup ⟨scope, pipeID⟩ = some row →
        row.discovered = true → ∃ record ∈ snapshot.records,
          record.pipeID = pipeID ∧ Holds row record ∧ d.Replaceable ⟨scope, pipeID⟩) ∧
      (∀ record ∈ snapshot.records, d.Replaceable ⟨scope, record.pipeID⟩ →
        ∃ row, (effect c d).records.lookup ⟨scope, record.pipeID⟩ = some row ∧ Holds row record) ∧
      (∀ key row, row.discovered = false → ((effect c d).records.lookup key = some row ↔
          d.records.lookup key = some row)) ∧
      ∀ key, key.scope ≠ scope → (effect c d).records.lookup key = d.records.lookup key) ∧
    ∀ error, outcome c d = .error error → effect c d = d := by
  refine ⟨?_, fun error => effect_of_outcome_error⟩
  intro value accepted
  obtain ⟨after, done⟩ := outcome_eq_ok accepted
  obtain ⟨lease, reconciles⟩ := reconciles_of_offered isOffer done
  rw [effect_of_ok done]
  obtain ⟨middle, loads, rows⟩ := reconciles.loads
  refine ⟨fun _ _ => reconciles.discovered, ?_, ?_, fun _ => reconciles.other⟩
  · intro record member replaceable
    grind [Reconciles.key, Loads.put, Reconciles.live]
  · grind [Loads.owned]

/-- A record of a Pipe in the Scope `c/n`. -/
def sampleRecord (pipeID : String) (sequence : ℕ) : Record :=
  ⟨str "c/n", str pipeID, [], [UInt8.ofNat sequence], ⟨10 * second, 0⟩, sequence, false⟩

/-- A store with a record of its own and a discovered one. -/
def sampleStore : Discovery :=
  ({} : Discovery).putRow (sampleRecord "own" 1).key (sampleRecord "own" 1).row
    |>.putRow (sampleRecord "old" 1).key
      { sampleRecord "old" 1 with discovered := true }.row

/-- A snapshot with a record of the same Pipe and a new one. -/
def sampleSnapshot : AuthoritativeSnapshot :=
  ⟨snapshotSourcePinnedAuthority, true, 1, 1, List.replicate 64 0x30,
    [sampleRecord "own" 2, sampleRecord "new" 1]⟩

theorem reconcile_replaces_sample : ∃ row,
    (effect (.reconcile (str "c/n") sampleSnapshot ⟨second, 0⟩)
      sampleStore).records.lookup ⟨str "c/n", str "new"⟩ = some row ∧
    Holds row (sampleRecord "new" 1) := by
  have determined : sampleStore.PayloadDetermines sampleSnapshot.records := by
    intro record member row found samePayload
    rcases List.mem_pair.mp member with rfl | rfl
    · obtain rfl : (sampleRecord "own" 1).row = row :=
        Option.some.inj ((by decide +kernel : sampleStore.records.lookup
          (sampleRecord "own" 2).key = some (sampleRecord "own" 1).row).symm.trans found)
      exact absurd samePayload (by decide)
    · have missing : sampleStore.records.lookup (sampleRecord "new" 1).key =
          none := by decide +kernel
      cases found
  have instants : ∀ record ∈ sampleSnapshot.records,
      record.expiresAt.InTextOrder ⟨second, 0⟩ := by decide +kernel
  have accepted : outcome (.reconcile (str "c/n") sampleSnapshot ⟨second, 0⟩)
      sampleStore = .ok () := by decide +kernel
  have replaceable : sampleStore.Replaceable ⟨str "c/n", str "new"⟩ := by
    intro row found
    have missing : sampleStore.records.lookup ⟨str "c/n", str "new"⟩ = none := by
      decide +kernel
    cases found
  exact ((reconcile_replaces sampleStore
    (.reconcile (str "c/n") sampleSnapshot ⟨second, 0⟩) (str "c/n")
    sampleSnapshot ⟨second, 0⟩ rfl determined instants).1 () accepted).2.1
      (sampleRecord "new" 1) (by simp [sampleSnapshot]) replaceable

/-! ## Errors -/

/-- The errors of a reconcile that have nothing to do with what is stored for the
Scope. -/
def snapshotErrors : List GoError :=
  [errorsNew "invalid authoritative snapshot metadata",
    errorsNew "invalid authoritative snapshot record",
    errorsNew "duplicate record in authoritative snapshot",
    errScopeSyncLeaseLost, errHighBit] ++ recordErrors

section Errors

variable {d : Discovery} {scope : GoString} {now : Time} {error : GoError}

variable {records : List Record} {lease : Option ScopeSyncLease} {snapshot : AuthoritativeSnapshot}

theorem checkSnapshotRecords_eq_error {seen : List GoString}
    (failed : checkSnapshotRecords scope seen records = .error error) : error ∈ snapshotErrors := by
  induction records generalizing seen with
  | nil => cases failed
  | cons record rest ih =>
    grind [bind_eq_error, failIf_eq_error, checkSnapshotRecords, snapshotErrors]

theorem forEach_eq_error {α : Type} {records : List α} {check : α → Except GoError Unit}
    (failed : forEach records check = .error error) :
    ∃ record ∈ records, check record = .error error := by
  induction records with
  | nil => cases failed
  | cons record rest ih =>
    grind [bind_eq_error, forEach]

theorem fenced_eq_error
    (failed : d.fenced lease now = .error error) : error = errScopeSyncLeaseLost := by
  unfold fenced at failed
  split at failed
  · cases failed
  · grind [bind_eq_error, failIf_eq_error, leaseCurrentTx]

/-- What makes the order check fail. -/
theorem checkSnapshotOrder_eq_error (failed : d.checkSnapshotOrder scope snapshot = .error error) :
    error = errAuthoritativeSnapshotRollback ∨ (error = errAuthoritativeSnapshotAmbiguous ∧
        snapshot.generation = (d.freshness scope).snapshotGeneration ∧
        (d.freshness scope).snapshotDigest ≠ [] ∧
        (snapshot.digest ≠ (d.freshness scope).snapshotDigest ∨
          snapshot.highWater ≠ (d.freshness scope).snapshotHighWater)) := by
  unfold checkSnapshotOrder at failed
  unfold freshness
  grind [bind_eq_error, failIf_eq_error]

/-- The loop over the records fails only at a record whose row is in the way. -/
theorem putDiscoveredRecords_eq_error (distinct : (records.map Record.key).Nodup)
    (failed : d.putDiscoveredRecords now records = .error error) :
    error ∈ recordErrors ∨ ∃ record ∈ records, ∃ row,
      d.records.lookup record.key = some row ∧ row.discovered = true ∧
        Obstructs row record error := by
  induction records generalizing d with
  | nil => cases failed
  | cons record rest ih =>
    rw [List.map_cons, List.nodup_cons] at distinct
    rw [putDiscoveredRecords, bind_eq_error] at failed
    rcases failed with first | ⟨middle, first, failed⟩
    · unfold putDiscoveredRecordTx at first
      split at first
      · cases first
      · rename_i replaceable
        rcases putRecordTx_eq_error first with invalid | ⟨row, found, obstructs⟩
        · exact .inl invalid
        · have found : d.records.lookup record.key = some row := found
          refine .inr ⟨record, List.mem_cons_self, row, found, ?_, ?_⟩
          · simpa [found] using replaceable
          · cases obstructs with
            | replayed older => exact .replayed older
            | conflicting sequence payload =>
              exact .conflicting sequence payload
    · rcases ih distinct.2 failed with
        invalid | ⟨other, member, row, found, isDiscovered, obstructs⟩
      · exact .inl invalid
      · -- the row was there before this round
        have different : other.key ∉ [record].map Record.key := by
          grind
        rw [(putDiscoveredRecordTx_loads first).other _ different] at found
        exact .inr ⟨other, List.mem_cons_of_mem _ member, row, found, isDiscovered, obstructs⟩

/-- What makes a reconcile fail: its arguments or its lease, the accepted snapshot,
or a discovered row of one of its records. -/
theorem reconcile_eq_error
    (failed : d.reconcileAuthoritativeSnapshot scope snapshot lease now = .error error) :
    error ∈ snapshotErrors ∨ d.checkSnapshotOrder scope snapshot = .error error ∨
      (d.checkSnapshotOrder scope snapshot = .ok () ∧
        ∃ record ∈ snapshot.records, record.scope = scope ∧ ∃ row,
          d.records.lookup record.key = some row ∧ row.discovered = true ∧
            Obstructs row record error) := by
  have ofRecord {error : GoError} (invalid : error ∈ recordErrors) :
      error ∈ snapshotErrors := List.mem_append_right _ invalid
  unfold reconcileAuthoritativeSnapshot at failed
  simp only [bind_eq_error, failIf_eq_error] at failed
  obtain ⟨-, rfl⟩ | ⟨-, -, records | ⟨⟨⟩, records, failed⟩⟩ := failed
  · exact .inl (by simp [snapshotErrors])
  · exact .inl (checkSnapshotRecords_eq_error records)
  obtain ⟨isScope, distinct⟩ := checkSnapshotRecords_eq_ok records
  obtain invalid | ⟨-, -, fence | ⟨-, -, order | ⟨⟨⟩, order, failed⟩⟩⟩ := failed
  · obtain ⟨record, -, invalid⟩ := forEach_eq_error invalid
    exact .inl (ofRecord (validateStoredRecord_eq_error invalid))
  · rw [fenced_eq_error fence]
    exact .inl (by simp [snapshotErrors])
  · exact .inr (.inl order)
  obtain put | ⟨middle, -, ⟨-, rfl⟩ | ⟨-, -, impossible⟩⟩ := failed
  · grind [putDiscoveredRecords_eq_error]
  · exact .inl (by simp [snapshotErrors])
  · cases impossible

end Errors

end Discovery

end Tubo
