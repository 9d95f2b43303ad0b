import Tubo.Store.Reconcile

/-!
# The records of an authority and their generation

The authority of a Scope owns the records of the Scope that are not discovered
ones.  `authority_snapshots` has two counters for each Scope, the generation and
the high-water mark.

`Versions` is what every command but `PutRecord` does to both: it leaves them
alone, or it advances both counters.  So the generation stands for the records.
-/

namespace Tubo

open Concurrency

/-- The counters are values of their columns. -/
def AuthorityRow.Fits (row : AuthorityRow) : Prop :=
  row.generation < int64Size ∧ row.highWater < int64Size

namespace Discovery

/-- The records that the authority of a Scope owns, as they are stored. -/
def owned (d : Discovery) (scope : GoString) : List (Sigma fun _ : RecordKey => RecordRow) :=
  d.records.entries.filter fun entry => owns scope entry.1 entry.2

/-- The counters of a Scope; zero stands for a Scope without a row. -/
def counters (d : Discovery) (scope : GoString) : AuthorityRow :=
  (d.authoritySnapshots.lookup scope).getD ⟨0, 0⟩

/-! ## Owned records -/

section Owned

variable {d after : Discovery} {scope : GoString}

variable {key : RecordKey} {row : RecordRow}

/-- A row that is neither owned nor in the place of one that is. -/
theorem owned_putRow (notOwned : owns scope key row = false)
    (replaced : ∀ old, d.records.lookup key = some old → owns scope key old = false) :
    (d.putRow key row).owned scope = d.owned scope := by
  unfold owned putRow
  rw [AList.entries_insert, List.filter_cons_of_neg (by simpa using notOwned)]
  rcases List.exists_or_eq_self_of_eraseP (fun entry => decide (key = entry.1))
      d.records.entries with same | ⟨old, front, back, -, isKey, split, erased⟩
  · rw [List.kerase, same]
  · obtain ⟨oldKey, old⟩ := old
    obtain rfl : key = oldKey := by simpa using isKey
    have member : old ∈ d.records.lookup key := by
      rw [AList.mem_lookup_iff, split]
      simp
    rw [List.kerase, erased, split, List.filter_append, List.filter_append,
      List.filter_cons_of_neg (by simpa using replaced old member)]

/-- Deletions of other records. -/
theorem owned_keepRecords {wanted : RecordKey → RecordRow → Bool}
    (kept : ∀ key row, owns scope key row = true → wanted key row = true) :
    (d.keepRecords wanted).owned scope = d.owned scope := by
  unfold owned keepRecords Table.keep
  rw [List.filter_filter]
  grind

theorem owns_of_ne (other : key.scope ≠ scope) : owns scope key row = false := by
  simp [owns, other]

theorem owns_of_discovered (isDiscovered : row.discovered = true) : owns scope key row = false := by
  simp [owns, isDiscovered]

theorem PutsRecord.owned {v : Record} (puts : PutsRecord d v after)
    (other : v.scope ≠ scope) : after.owned scope = d.owned scope := by
  cases puts with
  | known => rfl
  | written => exact owned_putRow (owns_of_ne other) fun _ _ => owns_of_ne other

/-- The loop over the records of a snapshot writes discovered rows only. -/
theorem putDiscoveredRecords_owned {records : List Record} {now : Time}
    (done : d.putDiscoveredRecords now records = .ok after) :
    after.owned scope = d.owned scope := by
  induction records generalizing d with
  | nil =>
    cases done
    rfl
  | cons record rest ih =>
    rw [putDiscoveredRecords] at done
    simp only [bind_eq_ok] at done
    obtain ⟨middle, put, done⟩ := done
    rw [ih done]
    rcases putDiscoveredRecordTx_eq_ok put with
      ⟨rfl, -⟩ | ⟨replaceable, -, puts⟩
    · rfl
    · cases puts with
      | known => rfl
      | written =>
        exact owned_putRow (owns_of_discovered rfl) fun old found =>
          owns_of_discovered (replaceable old found)

theorem Reconciles.owned {other : GoString} {snapshot : AuthoritativeSnapshot}
    {lease : Option ScopeSyncLease} {now : Time}
    (reconciles : Reconciles d other snapshot lease now after) :
    after.owned scope = d.owned scope := by
  obtain ⟨middle, put, rfl⟩ := reconciles.written
  have kept (drops : RecordKey → RecordRow → Bool) (key : RecordKey)
      (row : RecordRow) (isOwned : owns scope key row = true) :
      (!(key.scope == other && row.discovered && drops key row)) = true := by
    grind [owns]
  calc (middle.dropDiscovered other snapshot.records now).owned scope = middle.owned scope :=
        (owned_keepRecords (kept _)).trans (owned_keepRecords (kept _))
    _ = d.owned scope := putDiscoveredRecords_owned put

end Owned

/-! ## Versions -/

/-- The records of the authority and its counters are the same. -/
def SameVersion (scope : GoString) (d after : Discovery) : Prop :=
  after.owned scope = d.owned scope ∧ after.counters scope = d.counters scope

/-- Both counters are greater. -/
def Newer (scope : GoString) (d after : Discovery) : Prop :=
  (d.counters scope).generation < (after.counters scope).generation ∧
    (d.counters scope).highWater < (after.counters scope).highWater

/-- `Versions scope d after`: the records of the authority and its counters are
the same, or both counters are greater; and the counters stay in their columns. -/
structure Versions (scope : GoString) (d after : Discovery) : Prop where
  moves : SameVersion scope d after ∨ Newer scope d after
  fits : (d.counters scope).Fits → (after.counters scope).Fits

/-- A call that writes a record of the Scope without the counters. -/
def bypasses (scope : GoString) : DiscoveryCommand → Bool
  | .putRecord v _ => v.scope == scope
  | _ => false

section Versions

variable {d after : Discovery} {scope : GoString}

theorem SameVersion.versions (same : SameVersion scope d after) : Versions scope d after :=
  ⟨.inl same, by rw [same.2]; exact id⟩

theorem Versions.refl (scope : GoString) (d : Discovery) : Versions scope d d :=
  SameVersion.versions ⟨rfl, rfl⟩

theorem Versions.trans {last : Discovery} (first : Versions scope d after)
    (second : Versions scope after last) : Versions scope d last := by
  refine ⟨?_, fun fits => second.fits (first.fits fits)⟩
  rcases first.moves with ⟨owned, counters⟩ | ⟨generation, highWater⟩
  · unfold SameVersion Newer
    rw [← owned, ← counters]
    exact second.moves
  · rcases second.moves with ⟨-, counters⟩ | ⟨generation', highWater'⟩
    · grind [Newer]
    · exact .inr ⟨generation.trans generation', highWater.trans highWater'⟩

theorem Versions.le (versions : Versions scope d after) :
    (d.counters scope).generation ≤ (after.counters scope).generation ∧
      (d.counters scope).highWater ≤ (after.counters scope).highWater := by
  rcases versions.moves with ⟨-, counters⟩ | ⟨generation, highWater⟩
  · rw [counters]
    exact ⟨le_rfl, le_rfl⟩
  · exact ⟨generation.le, highWater.le⟩

/-- **One content.**  States with one generation have the same records and
counters. -/
theorem Versions.same (versions : Versions scope d after)
    (sameGeneration : (d.counters scope).generation =
      (after.counters scope).generation) : SameVersion scope d after :=
  versions.moves.resolve_right fun newer => newer.1.ne sameGeneration

/-- The advance of the counters, whatever happened to the records before. -/
theorem versions_of_advance {middle : Discovery}
    (done : middle.advanceAuthoritySnapshotTx scope = .ok after)
    (sameCounters : middle.authoritySnapshots = d.authoritySnapshots) : Versions scope d after := by
  obtain ⟨row, rfl, ⟨missing, rfl⟩ | ⟨old, found, generation, highWater, rfl⟩⟩ :=
    advance_eq_ok done
  · rw [sameCounters] at missing
    refine ⟨.inr ?_, fun _ => ?_⟩
    · simp [Newer, counters, putCounters, missing]
    · simp [AuthorityRow.Fits, counters, putCounters, int64Size]
  · rw [sameCounters] at found
    refine ⟨.inr ?_, ?_⟩
    · simp [Newer, counters, putCounters, found]
    · simp only [AuthorityRow.Fits, counters, putCounters, found,
        AList.lookup_insert, Option.getD_some]
      omega

/-- The advance of the counters of another Scope. -/
theorem counters_of_advance {other : GoString} (different : scope ≠ other)
    (done : d.advanceAuthoritySnapshotTx other = .ok after) : SameVersion scope d after := by
  obtain ⟨row, rfl, -⟩ := advance_eq_ok done
  exact ⟨rfl, by simp [counters, putCounters, AList.lookup_insert_ne different]⟩

theorem SameVersion.trans {last : Discovery} (first : SameVersion scope d after)
    (second : SameVersion scope after last) : SameVersion scope d last :=
  ⟨second.1.trans first.1, second.2.trans first.2⟩

theorem ensure_versions (d : Discovery) (scope other : GoString) :
    Versions scope d (d.ensureAuthoritySnapshot other) := by
  cases found : d.authoritySnapshots.lookup other with
  | some row =>
    refine SameVersion.versions ⟨rfl, ?_⟩
    rw [counters, ensureAuthoritySnapshot, Table.insertOrIgnore_some _ found]
    rfl
  | none =>
    unfold ensureAuthoritySnapshot
    rw [Table.insertOrIgnore_none _ found]
    by_cases isScope : scope = other
    · subst isScope
      refine ⟨.inr ?_, fun _ => ?_⟩
      · simp [Newer, counters, found]
      · simp [AuthorityRow.Fits, counters, int64Size]
    · refine SameVersion.versions ⟨rfl, ?_⟩
      simp [counters, AList.lookup_insert_ne isScope]

theorem putAuthoritativeRecord_versions {v : Record} {now : Time}
    (done : d.putAuthoritativeRecord v now = .ok after) : Versions scope d after := by
  obtain ⟨middle, -, puts, advanced⟩ := putAuthoritativeRecord_eq_ok done
  have frame : SameBut [.records] d middle := puts.sameBut (by simp)
  have sameCounters := frame.counters (by simp)
  by_cases isScope : scope = v.scope
  · subst isScope
    exact versions_of_advance advanced sameCounters
  · refine (SameVersion.trans ⟨puts.owned (Ne.symm isScope), ?_⟩
      (counters_of_advance isScope advanced)).versions
    rw [counters, counters, sameCounters]

theorem pruneOwned_versions {other : GoString} {now : Time}
    (done : d.pruneOwned other now = .ok after) : Versions scope d after := by
  rcases pruneOwned_eq_ok done with rfl | advanced
  · exact .refl scope after
  by_cases isScope : scope = other
  · subst isScope
    exact versions_of_advance advanced rfl
  · refine (SameVersion.trans ⟨owned_keepRecords ?_, rfl⟩
      (counters_of_advance isScope advanced)).versions
    grind [owns_of_ne]

/-- A command that leaves the counters alone and the records of the authority. -/
theorem versions_of_frame {c : DiscoveryCommand} (other : .counters ∉ changed c)
    (sameOwned : (effect c d).owned scope = d.owned scope) : Versions scope d (effect c d) := by
  refine SameVersion.versions ⟨sameOwned, ?_⟩
  rw [counters, counters, (effect_frame c d).counters other]

theorem owned_of_frame {c : DiscoveryCommand} (other : .records ∉ changed c) :
    (effect c d).owned scope = d.owned scope := by
  rw [owned, owned, (effect_frame c d).records other]

/-- **One step.**  Every change of the authority's records comes with an advance of
its counters. -/
theorem effect_versions (c : DiscoveryCommand) (d : Discovery)
    (counted : bypasses scope c = false) : Versions scope d (effect c d) := by
  rcases effect_cases c d with same | ⟨value, done⟩
  · rw [same]
    exact .refl scope d
  cases c with
  | putRecord v now =>
    refine versions_of_frame (by simp [changed]) ?_
    exact (putRecordTx_eq_ok (map_eq_ok.mp done)).2.owned (by simpa [bypasses] using counted)
  | pruneExpiredRecords now =>
    refine versions_of_frame (by simp [changed]) (owned_keepRecords ?_)
    grind [owns]
  | ensureAuthoritySnapshot other => exact ensure_versions d scope other
  | putAuthoritativeRecord v now =>
    exact putAuthoritativeRecord_versions (map_eq_ok.mp done)
  | authoritySnapshot other limit now =>
    exact pruneOwned_versions (authoritySnapshot_eq_ok done).1
  | reconcile other snapshot now =>
    exact versions_of_frame (by simp [changed]) (reconcile_eq_ok (map_eq_ok.mp done)).owned
  | reconcileWithLease lease snapshot now =>
    exact versions_of_frame (by simp [changed]) (reconcile_eq_ok (map_eq_ok.mp done)).owned
  | _ =>
    exact versions_of_frame (by simp [changed]) (owned_of_frame (by simp [changed]))

end Versions

/-- **The run.**  Each state has the version of every earlier one, or a newer one. -/
theorem stateAt_versions (start : Discovery) {calls : List DiscoveryCommand}
    {scope : GoString} (counted : ∀ c ∈ calls, bypasses scope c = false) {i j : ℕ} (le : i ≤ j) :
    Versions scope (stateAt effect start calls i) (stateAt effect start calls j) :=
  stateAt_related (Versions.refl scope) Versions.trans (fun _ c found => effect_versions c _
      (counted c (List.mem_of_getElem? found))) le

/-! ## Reads -/

section Reads

variable {d after : Discovery} {scope : GoString} {now : Time}

/-- The records of an authority, in the order of a read. -/
def ownedRecords (d : Discovery) (scope : GoString) : List Record :=
  ((d.owned scope).map fun entry => entry.2.record entry.1).mergeSort listedBefore

/-- After the deletion of the expired records none is left. -/
theorem pruneOwned_live (done : d.pruneOwned scope now = .ok after) :
    ∀ entry ∈ after.owned scope, expired entry.2 now = false := by
  have records : after.records = Table.keep
      (fun key row => !(owns scope key row && expired row now)) d.records := by
    unfold pruneOwned at done
    dsimp only at done
    split at done
    · obtain ⟨row, rfl, -⟩ := advance_eq_ok done
      rfl
    · cases done
      rfl
  grind [owned, Table.keep]

/-- A complete read lists all the records, and has the counters. -/
theorem authoritySnapshot_reads {limit : ℤ} {read : SnapshotRead}
    (done : d.authoritySnapshot scope limit now = .ok (read, after)) :
    read.generation = (after.counters scope).generation ∧
      read.highWater = (after.counters scope).highWater ∧
      (read.complete = true → read.records = after.ownedRecords scope) := by
  obtain ⟨pruned, -, row, found, -, -, rfl⟩ := authoritySnapshot_eq_ok done
  have all : after.listOwned scope now = after.ownedRecords scope := by
    grind [List.filter_congr, pruneOwned_live, listOwned, ownedRecords, owned]
  grind [List.take_of_length_le, counters]

end Reads

end Discovery

end Tubo
