import Tubo.Store.Generations

/-!
# The row of a Pipe over a run

`RowStep` says once what a command can do to the row of a Pipe, if it offers no
snapshot for the Scope of the row: nothing, a put of a newer record, or a deletion
because the row has expired.

* `Announcements.ascends` — at an authority, the sequence numbers of the rows of a
  Pipe never decrease, also if the row is deleted between: what could have replaced
  it with a smaller number has expired with it;
* `stateAt_discoveredFrom` — at a client, each discovered row is that of a snapshot
  that was accepted.
-/

namespace Tubo

open Concurrency

namespace Discovery

/-! ## One step -/

/-- The clock reading of a call. -/
def reading : DiscoveryCommand → Option Time
  | .putRecord _ now | .pruneExpiredRecords now | .putAuthoritativeRecord _ now
  | .authoritySnapshot _ _ now | .acquire _ _ _ now _ _ | .renew _ now _
  | .recordFailure _ _ _ _ now | .recordFailureWithLease _ _ _ _ now
  | .reconcile _ _ now | .reconcileWithLease _ _ now => some now
  | .ensureAuthoritySnapshot _ | .release _ => none

/-- The record that a call puts. -/
def puts : DiscoveryCommand → Option Record
  | .putRecord v _ | .putAuthoritativeRecord v _ => some v
  | _ => none

/-- `RowStep c key before after`: what the call `c` can do to the row of a key. -/
inductive RowStep (c : DiscoveryCommand) (key : RecordKey) :
    Option RecordRow → Option RecordRow → Prop
  | same (row : Option RecordRow) : RowStep c key row row
  | put {before : Option RecordRow} (v : Record) (now : Time)
      (isPut : puts c = some v) (isReading : reading c = some now)
      (isKey : v.key = key) (isLive : now.instant < v.expiresAt.instant)
      (newer : ∀ row, before = some row → row.sequence < v.sequence) :
      RowStep c key before (some v.row)
  | expire (row : RecordRow) (now : Time) (isReading : reading c = some now)
      (isExpired : expired row now = true) : RowStep c key (some row) none

section Step

variable {c : DiscoveryCommand} {d after : Discovery} {key : RecordKey}
  {now : Time}

theorem validateStoredRecord_live {v : Record} (valid : validateStoredRecord v now = .ok ()) :
    now.instant < v.expiresAt.instant := by
  grind [bind_eq_ok, failIf_eq_ok, Time.after_iff, validateStoredRecord]

theorem PutsRecord.rowStep {v : Record} (putsRecord : PutsRecord d v after)
    (isPut : puts c = some v) (isReading : reading c = some now)
    (valid : validateStoredRecord v now = .ok ()) :
    RowStep c key (d.records.lookup key) (after.records.lookup key) := by
  cases putsRecord with
  | known => exact .same _
  | written newer =>
    by_cases isKey : v.key = key
    · subst isKey
      rw [putRow, AList.lookup_insert]
      exact .put v now isPut isReading rfl (validateStoredRecord_live valid)
        newer
    · rw [putRow, AList.lookup_insert_ne (Ne.symm isKey)]
      exact .same _

/-- A deletion of expired rows. -/
theorem rowStep_keep {wanted : RecordKey → RecordRow → Bool} (isReading : reading c = some now)
    (drops : ∀ row, wanted key row = false → expired row now = true) :
    RowStep c key (d.records.lookup key) ((d.keepRecords wanted).records.lookup key) := by
  rw [keepRecords, Table.keep_lookup]
  cases d.records.lookup key with
  | none => exact .same none
  | some row =>
    cases kept : wanted key row with
    | true =>
      rw [Option.filter_some, if_pos kept]
      exact .same _
    | false =>
      rw [Option.filter_some, if_neg (by simp [kept])]
      exact .expire row now isReading (drops row kept)

/-- **One step** of a call that offers no snapshot for the Scope of the row. -/
theorem effect_rowStep (c : DiscoveryCommand) (d : Discovery) (key : RecordKey)
    (notOffered : ∀ snapshot now, offered c ≠ some (key.scope, snapshot, now)) :
    RowStep c key (d.records.lookup key) ((effect c d).records.lookup key) := by
  rcases effect_cases c d with same | ⟨value, done⟩
  · rw [same]
    exact .same _
  cases c with
  | putRecord v now =>
    obtain ⟨valid, putsRecord⟩ := putRecordTx_eq_ok (map_eq_ok.mp done)
    exact putsRecord.rowStep rfl rfl valid
  | pruneExpiredRecords now =>
    exact rowStep_keep rfl fun row => by simp
  | putAuthoritativeRecord v now =>
    obtain ⟨middle, valid, putsRecord, advanced⟩ :=
      putAuthoritativeRecord_eq_ok (map_eq_ok.mp done)
    have frame : SameBut [.counters] middle _ :=
      advance_sameBut advanced (by simp)
    rw [frame.records (by simp)]
    exact putsRecord.rowStep rfl rfl valid
  | authoritySnapshot scope limit now =>
    rcases pruneOwned_eq_ok (authoritySnapshot_eq_ok done).1 with same | advanced
    · rw [same]
      exact .same _
    · have frame : SameBut [.counters] _ _ :=
        advance_sameBut advanced (by simp)
      rw [frame.records (by simp)]
      exact rowStep_keep rfl fun row => by simp
  | reconcile scope snapshot now =>
    rw [(reconcile_eq_ok (map_eq_ok.mp done)).other
      fun isScope => notOffered snapshot now (by rw [isScope]; rfl)]
    exact .same _
  | reconcileWithLease lease snapshot now =>
    rw [(reconcile_eq_ok (map_eq_ok.mp done)).other
      fun isScope => notOffered snapshot now (by rw [isScope]; rfl)]
    exact .same _
  | _ =>
    rw [(transaction_frame done).records (by simp [changed])]
    exact .same _

end Step

/-- The row of a Pipe after a record was accepted. -/
theorem putAuthoritativeRecord_row {d : Discovery} {v : Record} {now : Time}
    (accepted : outcome (.putAuthoritativeRecord v now) d = .ok ()) :
    ∃ row, (effect (.putAuthoritativeRecord v now) d).records.lookup v.key =
      some row ∧ row.sequence = v.sequence := by
  obtain ⟨after, done⟩ := outcome_eq_ok accepted
  rw [effect_of_ok done]
  obtain ⟨middle, -, putsRecord, advanced⟩ :=
    putAuthoritativeRecord_eq_ok (map_eq_ok.mp done)
  have frame : SameBut [.counters] middle after :=
    advance_sameBut advanced (by simp)
  rw [frame.records (by simp)]
  cases putsRecord with
  | known row found sequence payload => exact ⟨row, found, sequence⟩
  | written newer => exact ⟨v.row, AList.lookup_insert _, rfl⟩

/-! ## The authority -/

/-- A record of the Scope that is announced in a run. -/
def Announced (scope : GoString) (calls : List DiscoveryCommand) (v : Record) : Prop :=
  v.scope = scope ∧ ∃ now, .putAuthoritativeRecord v now ∈ calls

/-- A run on the store of an authority: records of the Scope are announced,
listed and deleted.  The clock does not go back.  For each Pipe the payload is
determined by the sequence number, and the expiry does not decrease with it.
Stored timestamps compare as instants. -/
structure Announcements (scope : GoString) (calls : List DiscoveryCommand) :
    Prop where
  counted : ∀ c ∈ calls, bypasses scope c = false
  notOffered : ∀ c ∈ calls, ∀ snapshot now, offered c ≠ some (scope, snapshot, now)
  clock : ∀ (i j : ℕ) c c' t t', i ≤ j → calls[i]? = some c →
    calls[j]? = some c' → reading c = some t → reading c' = some t' →
    t.instant ≤ t'.instant
  payload : ∀ v v', Announced scope calls v → Announced scope calls v' →
    v.pipeID = v'.pipeID → v.sequence = v'.sequence → v.payload = v'.payload
  expiry : ∀ v v', Announced scope calls v → Announced scope calls v' →
    v.pipeID = v'.pipeID → v.sequence ≤ v'.sequence →
    v.expiresAt.instant ≤ v'.expiresAt.instant
  instants : ∀ v, Announced scope calls v → ∀ c ∈ calls, ∀ t,
    reading c = some t → v.expiresAt.InTextOrder t

/-- The store has no record of the Scope. -/
def NoRecords (scope : GoString) (d : Discovery) : Prop :=
  ∀ pipeID, d.records.lookup ⟨scope, pipeID⟩ = none

/-- `Remembers calls k w row`: after `k` calls, the row of the Pipe of `w` has a
sequence number that is not smaller than that of `w`; and if there is no row, the
clock has reached the expiry of `w`. -/
structure Remembers (calls : List DiscoveryCommand) (w : Record) (k : ℕ)
    (row : Option RecordRow) : Prop where
  sequence : ∀ present, row = some present → w.sequence ≤ present.sequence
  forgotten : row = none → ∃ (m : ℕ) (c : DiscoveryCommand) (t : Time), m < k ∧
    calls[m]? = some c ∧ reading c = some t ∧
    w.expiresAt.instant ≤ t.instant

theorem Remembers.succ {calls : List DiscoveryCommand} {w : Record} {k : ℕ}
    {row : Option RecordRow} (remembers : Remembers calls w k row) :
    Remembers calls w (k + 1) row := by
  refine ⟨remembers.sequence, fun isNone => ?_⟩
  grind [Remembers.forgotten]

namespace Announcements

variable {scope : GoString} {calls : List DiscoveryCommand} {start : Discovery}

variable {c : DiscoveryCommand} {v : Record} {pipeID : GoString} {row : RecordRow} {i j : ℕ}

section

variable (run : Announcements scope calls)

include run

/-- What a call of the run puts for the Scope is announced. -/
theorem announced_of_puts (member : c ∈ calls)
    (isPut : puts c = some v) (isScope : v.scope = scope) : Announced scope calls v := by
  cases c with
  | putRecord v' now =>
    cases isPut
    have counted := run.counted _ member
    simp [bypasses, isScope] at counted
  | putAuthoritativeRecord v' now =>
    cases isPut
    exact ⟨isScope, now, member⟩
  | _ => cases isPut

/-- Every row of the Scope is that of an announced record. -/
theorem announced (empty : NoRecords scope start) (k : ℕ)
    (found : (stateAt effect start calls k).records.lookup ⟨scope, pipeID⟩ = some row) :
    ∃ v, Announced scope calls v ∧ v.pipeID = pipeID ∧ v.row = row := by
  revert pipeID row
  refine stateAt_invariant (I := fun d : Discovery => ∀ {pipeID row},
    d.records.lookup ⟨scope, pipeID⟩ = some row →
      ∃ v, Announced scope calls v ∧ v.pipeID = pipeID ∧ v.row = row) ?_ ?_ k
  · intro pipeID row found
    rw [empty pipeID] at found
    cases found
  · intro c member d holds pipeID row found
    have step := effect_rowStep c d ⟨scope, pipeID⟩ (run.notOffered c member)
    rw [found] at step
    generalize before : d.records.lookup ⟨scope, pipeID⟩ = old at step
    cases step with
    | same => exact holds before
    | put v now isPut isReading isKey isLive newer =>
      obtain ⟨isScope, isPipe⟩ := RecordKey.mk.inj isKey
      exact ⟨v, run.announced_of_puts member isPut isScope, isPipe, rfl⟩

/-- The row of an announced record expires when the record does. -/
theorem expired_iff (isAnnounced : Announced scope calls v)
    (member : c ∈ calls) {now : Time} (isReading : reading c = some now) :
    expired v.row now = true ↔ v.expiresAt.instant ≤ now.instant := by
  have sameText : v.row.expiresAt.text = v.expiresAt.text := rfl
  rw [expired, decide_eq_true_iff, sameText]
  exact run.instants v isAnnounced c member now isReading

/-- One step.  A row is replaced by a newer one.  If it is deleted, then it has
expired, and so has `w`.  If a record comes into the place of a deleted row, then
it expires after `w`, so that it is not older. -/
theorem remembers_step
    (empty : NoRecords scope start) {w : Record} (isAnnounced : Announced scope calls w) {k : ℕ}
    (isCall : calls[k]? = some c) (remembers : Remembers calls w k
      ((stateAt effect start calls k).records.lookup ⟨scope, w.pipeID⟩)) :
    Remembers calls w (k + 1) ((effect c (stateAt effect start calls k)).records.lookup
        ⟨scope, w.pipeID⟩) := by
  have member := List.mem_of_getElem? isCall
  have step := effect_rowStep c (stateAt effect start calls k)
    ⟨scope, w.pipeID⟩ (run.notOffered c member)
  generalize before : (stateAt effect start calls k).records.lookup
    ⟨scope, w.pipeID⟩ = old at step remembers
  generalize (effect c (stateAt effect start calls k)).records.lookup
    ⟨scope, w.pipeID⟩ = new at step
  cases step with
  | same => exact remembers.succ
  | put v now isPut isReading isKey isLive newer =>
    refine ⟨?_, nofun⟩
    rintro present ⟨⟩
    cases old with
    | some row => exact (remembers.sequence row rfl).trans (newer row rfl).le
    | none =>
      obtain ⟨m, c', t, less, isCall', isReading', reached⟩ :=
        remembers.forgotten rfl
      have later := run.clock m k c' c t now less.le isCall' isCall isReading' isReading
      obtain ⟨isScope, isPipe⟩ := RecordKey.mk.inj isKey
      by_contra older
      have sooner := run.expiry v w (run.announced_of_puts member isPut isScope) isAnnounced isPipe
        (Nat.le_of_not_le older)
      omega
  | expire row now isReading isExpired =>
    refine ⟨nofun, fun _ => ⟨k, c, now, Nat.lt_succ_self k, isCall, isReading, ?_⟩⟩
    obtain ⟨v, isAnnounced', isPipe, rfl⟩ := run.announced empty k before
    have reached := (run.expired_iff isAnnounced' member isReading).mp isExpired
    have sooner := run.expiry w v isAnnounced isAnnounced' isPipe.symm (remembers.sequence _ rfl)
    exact sooner.trans reached

/-- **Ascending rows.**  A row is not older than an earlier row of the Pipe, even
if there was none between. -/
theorem ascends (empty : NoRecords scope start) (le : i ≤ j)
    {later : RecordRow} (found : (stateAt effect start calls i).records.lookup ⟨scope, pipeID⟩ =
      some row)
    (foundLater : (stateAt effect start calls j).records.lookup
      ⟨scope, pipeID⟩ = some later) : row.sequence ≤ later.sequence := by
  obtain ⟨w, isAnnounced, rfl, rfl⟩ := run.announced empty i found
  have remembers := stateAt_induction (I := fun k (d : Discovery) =>
    Remembers calls w k (d.records.lookup ⟨scope, w.pipeID⟩)) (i := i)
    (by rw [found]; exact ⟨by rintro present ⟨⟩; exact le_rfl, nofun⟩)
    (fun k c _ isCall => run.remembers_step empty isAnnounced isCall)
    (fun k d _ => Remembers.succ) le
  exact remembers.sequence later foundLater

/-- Rows with one sequence number have one payload. -/
theorem samePayload (empty : NoRecords scope start) {later : RecordRow}
    (found : (stateAt effect start calls i).records.lookup ⟨scope, pipeID⟩ = some row)
    (foundLater : (stateAt effect start calls j).records.lookup ⟨scope, pipeID⟩ = some later)
    (sameSequence : row.sequence = later.sequence) : row.payload = later.payload := by
  obtain ⟨v, isAnnounced, rfl, rfl⟩ := run.announced empty i found
  obtain ⟨w, isAnnounced', isPipe, rfl⟩ := run.announced empty j foundLater
  exact run.payload v w isAnnounced isAnnounced' isPipe.symm sameSequence

/-- The sequence numbers of accepted records of a Pipe never decrease. -/
theorem accepted_ascends
    (empty : NoRecords scope start) (le : i ≤ j) {v' : Record} {now now' : Time}
    (first : calls[i]? = some (.putAuthoritativeRecord v now))
    (second : calls[j]? = some (.putAuthoritativeRecord v' now'))
    (isScope : v.scope = scope) (isScope' : v'.scope = scope) (samePipe : v.pipeID = v'.pipeID)
    (accepted : outcome (.putAuthoritativeRecord v now) (stateAt effect start calls i) = .ok ())
    (accepted' : outcome (.putAuthoritativeRecord v' now')
      (stateAt effect start calls j) = .ok ()) :
    v.sequence ≤ v'.sequence := by
  obtain ⟨row, found, sequence⟩ := putAuthoritativeRecord_row accepted
  obtain ⟨row', found', sequence'⟩ := putAuthoritativeRecord_row accepted'
  have key : v.key = ⟨scope, v.pipeID⟩ := by
    rw [← isScope]
    rfl
  have key' : v'.key = ⟨scope, v.pipeID⟩ := by
    rw [← isScope', samePipe]
    rfl
  have next : stateAt effect start calls (i + 1) = _ := stateAt_succ first
  have next' : stateAt effect start calls (j + 1) = _ := stateAt_succ second
  rw [← next, key] at found
  rw [← next', key'] at found'
  rw [← sequence, ← sequence']
  exact run.ascends empty (Nat.succ_le_succ le) found found'

end

end Announcements

/-! ## The client -/

/-- `DiscoveredFrom offers scope d`: each discovered row of the Scope is that of a
record of one of `offers`, whose generation is not greater than the accepted
one. -/
def DiscoveredFrom (offers : AuthoritativeSnapshot → Prop) (scope : GoString)
    (d : Discovery) : Prop :=
  ∀ pipeID row, d.records.lookup ⟨scope, pipeID⟩ = some row →
    row.discovered = true → ∃ snapshot, offers snapshot ∧
      snapshot.generation ≤ (d.freshness scope).snapshotGeneration ∧
      ∃ record ∈ snapshot.records, record.pipeID = pipeID ∧ Holds row record

/-- One step of a client that puts no discovered record itself. -/
theorem effect_discoveredFrom {offers : AuthoritativeSnapshot → Prop}
    {scope : GoString} {d : Discovery} {c : DiscoveryCommand}
    (holds : DiscoveredFrom offers scope d)
    (offered_of : ∀ snapshot now, offered c = some (scope, snapshot, now) → offers snapshot)
    (own : ∀ v, puts c = some v → v.scope = scope → v.discovered = false) :
    DiscoveredFrom offers scope (effect c d) := by
  intro pipeID row found isDiscovered
  by_cases isOffer : ∃ snapshot now, offered c = some (scope, snapshot, now)
  · obtain ⟨snapshot, now, isOffer⟩ := isOffer
    rcases effect_cases c d with same | ⟨value, done⟩
    · rw [same] at found ⊢
      exact holds pipeID row found isDiscovered
    -- an accepted snapshot replaces all discovered rows
    obtain ⟨lease, reconciles⟩ := reconciles_of_offered isOffer done
    obtain ⟨record, member, isPipe, isRow, -⟩ :=
      reconciles.discovered found isDiscovered
    refine ⟨snapshot, offered_of snapshot now isOffer, ?_, record, member, isPipe, isRow⟩
    rw [reconciles.freshness, if_pos rfl]
    exact le_rfl
  · have step := effect_rowStep c d ⟨scope, pipeID⟩ fun snapshot now isOffer' =>
      isOffer ⟨snapshot, now, isOffer'⟩
    rw [found] at step
    generalize before : d.records.lookup ⟨scope, pipeID⟩ = old at step
    cases step with
    | same =>
      obtain ⟨snapshot, isOne, generation, isRecord⟩ :=
        holds pipeID row before isDiscovered
      exact ⟨snapshot, isOne, generation.trans (effect_advances c d scope).generation, isRecord⟩
    | put v now isPut isReading isKey isLive newer =>
      have notDiscovered := own v isPut (congrArg RecordKey.scope isKey)
      grind [Record.row]

/-- The run. -/
theorem stateAt_discoveredFrom {offers : AuthoritativeSnapshot → Prop}
    {scope : GoString} {start : Discovery} {calls : List DiscoveryCommand}
    (holds : DiscoveredFrom offers scope start) (offered_of : ∀ c ∈ calls, ∀ snapshot now,
      offered c = some (scope, snapshot, now) → offers snapshot)
    (own : ∀ c ∈ calls, ∀ v, puts c = some v → v.scope = scope → v.discovered = false) (k : ℕ) :
    DiscoveredFrom offers scope (stateAt effect start calls k) :=
  stateAt_invariant holds (fun c member _ holds =>
    effect_discoveredFrom holds (offered_of c member) (own c member)) k

end Discovery

end Tubo
