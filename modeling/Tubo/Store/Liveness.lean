import Tubo.Go.TimeParse
import Tubo.Store.Generations
import Tubo.Store.SyncLease

/-!
# Which records are live

Package `internal/store`: `Records`, `Record`, `RecordInScope` and `AuthoritySnapshot`
select the records that have not expired, and the two prunes delete those that have.
A stored expiry is a text; it is compared with the text of the clock, and a row that is
selected has it parsed again.

`records_live_iff` says for which tables and clock readings all of them agree with the
instants, which is what `validateStoredRecord` compares.
-/

namespace Tubo

variable (parse : Bytes → Option Time)

/-! ## Reading rows -/

/-- The `Scan` of a row; `parse` is the general `time.Parse`. -/
def Record.scan (v : Record) : Except GoError Record :=
  match Time.unmarshalText parse v.expiresAt.text with
  | some expiresAt => .ok { v with expiresAt }
  | none => .error (.new (str "parsing time " ++ quote v.expiresAt.text))

/-- The loop over the rows of a query. -/
def scanRows : List Record → Except GoError (List Record)
  | [] => .ok []
  | row :: rest => do
      let record ← row.scan parse
      let records ← scanRows rest
      return record :: records

namespace Discovery

variable (d : Discovery) (now : Time)

/-- The rows of a query that have not expired, by the texts. -/
def selectRows (wanted : RecordKey → Bool) : List Record :=
  (d.records.entries.filter fun entry =>
    wanted entry.1 && !expired entry.2 now).map fun entry => entry.2.record entry.1

/-- `Records`, with both of its clock readings at `now`. -/
def recordsAt (scope : GoString) : Except GoError (List Record) :=
  scanRows parse (((d.pruneExpiredRecords now).selectRows now (·.scope == scope)).mergeSort
    listedBefore)

/-- `Record`, with both of its clock readings at `now`. -/
def recordAt (pipeID : GoString) : Except GoError Record := do
  let found ← scanRows parse
    (((d.pruneExpiredRecords now).selectRows now (·.pipeID == pipeID)).mergeSort
      fun a b => decide (a.scope ≤ b.scope))
  match found with
  | [] => .error (.wrap [] errNotFound (str ": pipe/" ++ pipeID))
  | [record] => .ok record
  | _ => .error (.new (str "conflict: pipe/" ++ pipeID ++
      str " exists in multiple scopes; specify scope"))

/-- `RecordInScope`, with both of its clock readings at `now`. -/
def recordInScopeAt (scope pipeID : GoString) : Except GoError Record :=
  match (d.pruneExpiredRecords now).records.lookup ⟨scope, pipeID⟩ with
  | some row =>
    if expired row now then
      .error (.wrap [] errNotFound (str ": pipe/" ++ pipeID ++ str " in " ++ scope))
    else (row.record ⟨scope, pipeID⟩).scan parse
  | none =>
    .error (.wrap [] errNotFound (str ": pipe/" ++ pipeID ++ str " in " ++ scope))

/-- `AuthoritySnapshot`, whose query reads one row more than the limit. -/
def authoritySnapshotAt (scope : GoString) (limit : ℤ) :
    Except GoError (SnapshotRead × Discovery) := do
  let (read, after) ← d.authoritySnapshot scope limit now
  let records ← scanRows parse ((after.listOwned scope now).take (limit.toNat + 1))
  return ({ read with records := records.take limit.toNat }, after)

/-- The tables after the deletion in `AuthoritySnapshot`. -/
def keptOwned (scope : GoString) : Discovery :=
  d.keepRecords fun key row => !(owns scope key row && expired row now)

/-- The authority of a Scope can answer with a limit: all of its records fit, and its
counters are there and can be advanced. -/
structure SnapshotReady (scope : GoString) (limit : ℤ) : Prop where
  valid : 0 < limit ∧ limit ≤ maxSnapshotRecords
  fits : (d.owned scope).length ≤ limit.toNat
  counters : ∃ row, d.authoritySnapshots.lookup scope = some row ∧ row.generation ≠ 0 ∧
    row.highWater ≠ 0 ∧ row.generation ≠ int64Size - 1 ∧ row.highWater ≠ int64Size - 1

end Discovery

/-- A row whose text is parsed as its instant. -/
def RecordRow.Parses (row : RecordRow) : Prop :=
  Time.unmarshalText parse row.expiresAt.text = some row.expiresAt.utc

/-- The record that is returned for a row. -/
def RecordRow.returned (row : RecordRow) (key : RecordKey) : Record :=
  { row.record key with expiresAt := row.expiresAt.utc }

/-! ## What is selected -/

section Scan

variable {parse} {key : RecordKey} {row : RecordRow}

theorem RecordRow.scan_iff :
    (row.record key).scan parse = .ok (row.returned key) ↔ row.Parses parse := by
  grind [Record.scan, RecordRow.Parses, RecordRow.returned, RecordRow.record]

/-- A record is read under the key of its row. -/
theorem Record.scan_key {v read : Record} (scanned : v.scan parse = .ok read) :
    read.key = v.key := by
  unfold Record.scan at scanned
  split at scanned
  · cases scanned
    rfl
  · cases scanned

theorem mem_scanRows {rows read : List Record} (scanned : scanRows parse rows = .ok read)
    (v : Record) : v ∈ read ↔ ∃ row ∈ rows, row.scan parse = .ok v := by
  induction rows generalizing read with
  | nil =>
    obtain rfl := Except.ok.inj scanned
    simp
  | cons row rest ih =>
    simp only [scanRows, bind_eq_ok] at scanned
    obtain ⟨record, first, records, more, same⟩ := scanned
    obtain rfl := Except.ok.inj same
    constructor
    · grind
    · grind

theorem scanRows_of_all {rows : List Record} (all : ∀ row ∈ rows, ∃ v, row.scan parse = .ok v) :
    ∃ read, scanRows parse rows = .ok read ∧ read.length = rows.length := by
  induction rows with
  | nil => exact ⟨[], rfl, rfl⟩
  | cons row rest ih =>
    obtain ⟨record, first⟩ := all row List.mem_cons_self
    obtain ⟨records, more, sameLength⟩ := ih fun other later =>
      all other (List.mem_cons_of_mem _ later)
    refine ⟨record :: records, ?_, congrArg (· + 1) sameLength⟩
    rw [scanRows, first, ok_bind, more, ok_bind]
    rfl

end Scan

namespace Discovery

section Select

variable {d : Discovery} {now : Time} {key : RecordKey} {row : RecordRow}

theorem mem_entries {entry : Sigma fun _ : RecordKey => RecordRow} :
    entry ∈ d.records.entries ↔ d.records.lookup entry.1 = some entry.2 := by
  exact AList.mem_lookup_iff.symm

theorem mem_selectRows {wanted : RecordKey → Bool} {v : Record} :
    v ∈ d.selectRows now wanted ↔ ∃ key row, d.records.lookup key = some row ∧
      wanted key = true ∧ expired row now = false ∧ v = row.record key := by
  simp only [selectRows, List.mem_map, List.mem_filter, mem_entries, Bool.and_eq_true,
    Bool.not_eq_true']
  constructor
  · grind
  · rintro ⟨key, row, found, isWanted, live, rfl⟩
    exact ⟨⟨key, row⟩, ⟨found, isWanted, live⟩, rfl⟩

/-- Pruning deletes nothing that a query would select. -/
theorem pruned_lookup_iff (live : expired row now = false) :
    (d.pruneExpiredRecords now).records.lookup key = some row ↔
      d.records.lookup key = some row := by
  rw [pruneExpiredRecords, keepRecords, Table.keep_lookup, Option.filter_eq_some_iff]
  simp [live]

theorem mem_selectRows_pruned {wanted : RecordKey → Bool} {v : Record} :
    v ∈ (d.pruneExpiredRecords now).selectRows now wanted ↔
      ∃ key row, d.records.lookup key = some row ∧ wanted key = true ∧
        expired row now = false ∧ v = row.record key := by
  grind [mem_selectRows, pruned_lookup_iff]

end Select

section Reads

variable {parse} {d : Discovery} {now : Time} {key : RecordKey} {row : RecordRow}

/-- All rows that a query may select are parsed. -/
def ParsesLive (parse : Bytes → Option Time) (d : Discovery) (now : Time) : Prop :=
  ∀ key row, d.records.lookup key = some row → expired row now = false → row.Parses parse

theorem expired_of_scan {v : Record} {other : RecordKey} {otherRow : RecordRow}
    (found : d.records.lookup key = some row) (foundOther : d.records.lookup other = some otherRow)
    (live : expired otherRow now = false)
    (scanned : (otherRow.record other).scan parse = .ok v) (same : v.key = key) :
    expired row now = false := by
  have isKey : v.key = other := Record.scan_key scanned
  grind

theorem recordsAt_iff (parses : d.ParsesLive parse now) (found : d.records.lookup key = some row) :
    (∃ listed, d.recordsAt parse now key.scope = .ok listed ∧ row.returned key ∈ listed) ↔
      expired row now = false := by
  constructor
  · rintro ⟨listed, isListed, member⟩
    obtain ⟨v, selected, scanned⟩ := (mem_scanRows isListed _).mp member
    obtain ⟨other, otherRow, foundOther, -, live, rfl⟩ :=
      mem_selectRows_pruned.mp (List.mem_mergeSort.mp selected)
    exact expired_of_scan found foundOther live scanned rfl
  · intro live
    have scannable : ∀ v ∈ ((d.pruneExpiredRecords now).selectRows now
        (·.scope == key.scope)).mergeSort listedBefore, ∃ read, v.scan parse = .ok read := by
      intro v selected
      obtain ⟨other, otherRow, foundOther, -, liveOther, rfl⟩ :=
        mem_selectRows_pruned.mp (List.mem_mergeSort.mp selected)
      exact ⟨_, RecordRow.scan_iff.mpr (parses _ _ foundOther liveOther)⟩
    obtain ⟨listed, isListed, -⟩ := scanRows_of_all scannable
    refine ⟨listed, isListed, (mem_scanRows isListed _).mpr ⟨row.record key, ?_, ?_⟩⟩
    · exact List.mem_mergeSort.mpr (mem_selectRows_pruned.mpr
        ⟨key, row, found, beq_self_eq_true _, live, rfl⟩)
    · exact RecordRow.scan_iff.mpr (parses _ _ found live)

section

variable (found : d.records.lookup key = some row)
  (alone : ∀ other, other.pipeID = key.pipeID → d.records.lookup other ≠ none → other = key)

include found alone

/-- The rows of a Pipe, if no other Scope has one. -/
theorem selectRows_alone
    :
    (d.pruneExpiredRecords now).selectRows now (·.pipeID == key.pipeID) =
      if expired row now then [] else [row.record key] := by
  have only : ∀ entry ∈ (d.pruneExpiredRecords now).records.entries.filter (fun entry =>
      entry.1.pipeID == key.pipeID && !expired entry.2 now), entry = ⟨key, row⟩ := by
    rintro ⟨other, otherRow⟩ selected
    grind [mem_entries, pruned_lookup_iff]
  have nodup : ((d.pruneExpiredRecords now).records.entries.filter (fun entry =>
      entry.1.pipeID == key.pipeID && !expired entry.2 now)).Nodup :=
    (d.pruneExpiredRecords now).records.nodupKeys.nodup.filter _
  unfold selectRows
  cases live : expired row now with
  | true =>
    rw [if_pos rfl, List.map_eq_nil_iff, List.eq_nil_iff_forall_not_mem]
    grind
  | false =>
    have member : (⟨key, row⟩ : Sigma fun _ : RecordKey => RecordRow) ∈
        (d.pruneExpiredRecords now).records.entries.filter (fun entry =>
          entry.1.pipeID == key.pipeID && !expired entry.2 now) := by
      grind [mem_entries, pruned_lookup_iff]
    have single : (d.pruneExpiredRecords now).records.entries.filter (fun entry =>
        entry.1.pipeID == key.pipeID && !expired entry.2 now) = [⟨key, row⟩] := by
      grind [List.Nodup.ne_singleton_iff]
    rw [single]
    rfl

theorem recordAt_iff
    :
    d.recordAt parse now key.pipeID = .ok (row.returned key) ↔
      expired row now = false ∧ row.Parses parse := by
  rw [recordAt, selectRows_alone found alone]
  cases live : expired row now with
  | true =>
    rw [if_pos rfl, List.mergeSort_nil, scanRows, ok_bind]
    simp
  | false =>
    rw [if_neg (by simp), List.mergeSort_singleton, ← RecordRow.scan_iff]
    rw [scanRows]
    cases (row.record key).scan parse with
    | error error => simp [bind, Except.bind]
    | ok read => simp [scanRows, bind, Except.bind, pure, Except.pure]

end

theorem recordInScopeAt_iff (found : d.records.lookup key = some row) :
    d.recordInScopeAt parse now key.scope key.pipeID = .ok (row.returned key) ↔
      expired row now = false ∧ row.Parses parse := by
  unfold recordInScopeAt
  cases live : expired row now with
  | false =>
    rw [show (⟨key.scope, key.pipeID⟩ : RecordKey) = key from rfl,
      (pruned_lookup_iff live).mpr found]
    dsimp only
    rw [if_neg (by simp [live]), RecordRow.scan_iff]
    simp
  | true =>
    cases pruned : (d.pruneExpiredRecords now).records.lookup ⟨key.scope, key.pipeID⟩ with
    | none => simp
    | some other =>
      rw [pruneExpiredRecords, keepRecords, Table.keep_lookup, Option.filter_eq_some_iff] at pruned
      rw [show (⟨key.scope, key.pipeID⟩ : RecordKey) = key from rfl, found] at pruned
      grind

/-- `AuthoritySnapshot` answers, once its counters are ready. -/
theorem authoritySnapshot_of_ready {scope : GoString} {limit : ℤ}
    (ready : d.SnapshotReady scope limit) :
    ∃ read after, d.authoritySnapshot scope limit now = .ok (read, after) ∧
      after.records = (d.keptOwned now scope).records := by
  obtain ⟨counters, found, generation, highWater, room, roomToo⟩ := ready.counters
  have pruned : ∃ after row, d.pruneOwned scope now = .ok after ∧
      after.records = (d.keptOwned now scope).records ∧
      after.authoritySnapshots.lookup scope = some row ∧
      row.generation ≠ 0 ∧ row.highWater ≠ 0 := by
    unfold pruneOwned
    dsimp only
    split
    · refine ⟨(d.keptOwned now scope).putCounters scope
        ⟨counters.generation + 1, counters.highWater + 1⟩,
        ⟨counters.generation + 1, counters.highWater + 1⟩, ?_, rfl, ?_, ?_, ?_⟩
      · rw [advanceAuthoritySnapshotTx, keepRecords]
        rw [found]
        dsimp only
        rw [if_neg (not_or.mpr ⟨room, roomToo⟩)]
        rfl
      · exact AList.lookup_insert _
      · exact Nat.succ_ne_zero _
      · exact Nat.succ_ne_zero _
    · exact ⟨_, counters, rfl, rfl, found, generation, highWater⟩
  obtain ⟨after, row, isPruned, records, foundRow, positive, positiveToo⟩ := pruned
  have valid := ready.valid
  rw [authoritySnapshot, failIf_of_not (by omega), ok_bind, isPruned, ok_bind, foundRow]
  dsimp only
  rw [failIf_of_not (not_or.mpr ⟨positive, positiveToo⟩), ok_bind]
  exact ⟨_, after, rfl, records⟩

theorem mem_listOwned {scope : GoString} {v : Record} :
    v ∈ d.listOwned scope now ↔ ∃ key row, d.records.lookup key = some row ∧
      owns scope key row = true ∧ expired row now = false ∧ v = row.record key := by
  simp only [listOwned, List.mem_mergeSort, List.mem_map, List.mem_filter, mem_entries,
    Bool.and_eq_true, Bool.not_eq_true']
  constructor
  · grind
  · rintro ⟨key, row, found, isOwned, live, rfl⟩
    exact ⟨⟨key, row⟩, ⟨found, isOwned, live⟩, rfl⟩

/-- The deletion removes nothing that the query would list. -/
theorem listOwned_kept {after : Discovery} {scope : GoString}
    (records : after.records = (d.keptOwned now scope).records) :
    after.listOwned scope now = d.listOwned scope now := by
  unfold listOwned
  rw [records, keptOwned, keepRecords, Table.keep, List.filter_filter]
  grind

theorem authoritySnapshotAt_iff (parses : d.ParsesLive parse now)
    (found : d.records.lookup key = some row) (isOwned : row.discovered = false) {limit : ℤ}
    (ready : d.SnapshotReady key.scope limit) :
    (∃ read after, d.authoritySnapshotAt parse now key.scope limit = .ok (read, after) ∧
      row.returned key ∈ read.records) ↔ expired row now = false := by
  obtain ⟨read, after, answered, records⟩ := @authoritySnapshot_of_ready d now _ _ ready
  have sameList := listOwned_kept records
  have short : (d.listOwned key.scope now).length ≤ limit.toNat := by
    refine le_trans ?_ ready.fits
    rw [listOwned, List.length_mergeSort, List.length_map]
    refine (List.monotone_filter_right _ fun entry selected => ?_).length_le
    exact (Bool.and_eq_true_iff.mp selected).1
  have scannable : ∀ v ∈ d.listOwned key.scope now, ∃ read, v.scan parse = .ok read := by
    intro v listed
    obtain ⟨other, otherRow, foundOther, -, live, rfl⟩ := mem_listOwned.mp listed
    exact ⟨_, RecordRow.scan_iff.mpr (parses _ _ foundOther live)⟩
  obtain ⟨listed, isListed, sameLength⟩ := scanRows_of_all scannable
  have isAnswer : d.authoritySnapshotAt parse now key.scope limit =
      .ok ({ read with records := listed }, after) := by
    rw [authoritySnapshotAt, answered, ok_bind]
    dsimp only
    rw [sameList, List.take_of_length_le (by omega), isListed, ok_bind,
      List.take_of_length_le (by omega)]
    rfl
  rw [isAnswer]
  constructor
  · rintro ⟨_, _, same, member⟩
    obtain ⟨rfl, rfl⟩ := Prod.mk.inj (Except.ok.inj same)
    obtain ⟨v, selected, scanned⟩ := (mem_scanRows isListed _).mp member
    obtain ⟨other, otherRow, foundOther, -, live, rfl⟩ := mem_listOwned.mp selected
    exact expired_of_scan found foundOther live scanned rfl
  · intro live
    refine ⟨_, _, rfl, (mem_scanRows isListed _).mpr ⟨row.record key, ?_, ?_⟩⟩
    · exact mem_listOwned.mpr ⟨key, row, found, by simp [owns, isOwned], live, rfl⟩
    · exact RecordRow.scan_iff.mpr (parses _ _ found live)

theorem pruned_iff (found : d.records.lookup key = some row)
    (isDiscovered : row.discovered = true) :
    (d.pruneExpiredRecords now).records.lookup key = some row ↔ expired row now = false := by
  grind [Table.keep_lookup, pruneExpiredRecords, keepRecords]

theorem keptOwned_iff (found : d.records.lookup key = some row) (isOwned : row.discovered = false) :
    (d.keptOwned now key.scope).records.lookup key = some row ↔ expired row now = false := by
  rw [keptOwned, keepRecords, Table.keep_lookup, Option.filter_eq_some_iff]
  simp [found, isOwned, owns]

end Reads

/-! ## Live rows -/

/-- The reads and the prunes treat a row as its expiry instant says. -/
structure LiveExactly (d : Discovery) (now : Time) (key : RecordKey) (row : RecordRow) :
    Prop where
  records : (∃ listed, d.recordsAt parse now key.scope = .ok listed ∧
    row.returned key ∈ listed) ↔ row.expiresAt.after now = true
  -- Two rows of one Pipe are a conflict for `Record`.
  record : (∀ other, other.pipeID = key.pipeID → d.records.lookup other ≠ none → other = key) →
    (d.recordAt parse now key.pipeID = .ok (row.returned key) ↔ row.expiresAt.after now = true)
  inScope : d.recordInScopeAt parse now key.scope key.pipeID = .ok (row.returned key) ↔
    row.expiresAt.after now = true
  snapshot : row.discovered = false → ∀ limit, d.SnapshotReady key.scope limit →
    ((∃ read after, d.authoritySnapshotAt parse now key.scope limit = .ok (read, after) ∧
      row.returned key ∈ read.records) ↔ row.expiresAt.after now = true)
  pruned : row.discovered = true → ((d.pruneExpiredRecords now).records.lookup key = some row ↔
      row.expiresAt.after now = true)
  prunedOwned : row.discovered = false →
    ((d.keptOwned now key.scope).records.lookup key = some row ↔ row.expiresAt.after now = true)

/-- The texts of a stored expiry and of a clock reading are ordered as their instants,
and the text of a live expiry is parsed. -/
def ReadByInstant (row : RecordRow) (now : Time) : Prop :=
  row.expiresAt.InTextOrder now ∧ (row.expiresAt.after now = true → row.Parses parse)

theorem expired_iff_of_inTextOrder {row : RecordRow} {now : Time}
    (ordered : row.expiresAt.InTextOrder now) :
    expired row now = false ↔ row.expiresAt.after now = true := by
  grind [text_le_iff_not_after_iff, expired]

variable {parse} in
/-- One row is treated as its instant says exactly if its texts allow it, in a table whose
live rows are parsed. -/
theorem liveExactly_of {d : Discovery} {now : Time}
    (all : ∀ key row, d.records.lookup key = some row → ReadByInstant parse row now)
    {key : RecordKey} {row : RecordRow} (found : d.records.lookup key = some row) :
    d.LiveExactly parse now key row := by
  have parses : d.ParsesLive parse now := fun key row found live =>
    (all key row found).2 ((expired_iff_of_inTextOrder (all key row found).1).mp live)
  obtain ⟨ordered, parsed⟩ := all key row found
  have live := expired_iff_of_inTextOrder ordered
  have both : expired row now = false ∧ row.Parses parse ↔ row.expiresAt.after now = true :=
    ⟨fun fine => live.mp fine.1, fun after => ⟨live.mpr after, parsed after⟩⟩
  exact
    { records := (recordsAt_iff parses found).trans live
      record := fun alone => (recordAt_iff found alone).trans both
      inScope := (recordInScopeAt_iff found).trans both
      snapshot := fun isOwned limit ready =>
        (authoritySnapshotAt_iff parses found isOwned ready).trans live
      pruned := fun isDiscovered => (pruned_iff found isDiscovered).trans live
      prunedOwned := fun isOwned => (keptOwned_iff found isOwned).trans live }

/-- The years 1 to 9999 are parsed. -/
theorem RecordRow.parses_of_inRange {row : RecordRow} (range : row.expiresAt.InRange) :
    row.Parses parse := by
  obtain ⟨text, written⟩ := Time.marshalText_of_inRange (by rfl)
    (show row.expiresAt.utc.InRange from range)
  have isText : row.expiresAt.text = text := by
    rw [Time.text_eq range]
    exact (Time.marshalText_eq_ok rfl written).2.symm
  rw [RecordRow.Parses, Time.unmarshalText, isText, Time.parseRFC3339_text rfl written]

/-- **Live exactly until it expires.**  The reads and the prunes treat every stored record
as its expiry instant says exactly if the texts that are compared are ordered as the
instants, and every live expiry is parsed.  In the years 1 to 9999 that fails exactly if a
stored expiry or the clock reading is the other one cut off to fewer decimals of a
second. -/
theorem records_live_iff (d : Discovery) (now : Time) :
    ((∀ key row, d.records.lookup key = some row → d.LiveExactly parse now key row) ↔
      ∀ key row, d.records.lookup key = some row → ReadByInstant parse row now) ∧
    ∀ row : RecordRow, row.expiresAt.InRange → now.InRange → (ReadByInstant parse row now ↔
        ¬row.expiresAt.Truncates now ∧ ¬now.Truncates row.expiresAt) := by
  refine ⟨⟨fun exact key row found => ?_, fun all key row found => liveExactly_of all found⟩, ?_⟩
  · have live := exact key row found
    have sameAs : expired row now = false ↔ row.expiresAt.after now = true := by
      cases discovered : row.discovered with
      | true => exact (pruned_iff found discovered).symm.trans (live.pruned discovered)
      | false => exact (keptOwned_iff found discovered).symm.trans (live.prunedOwned discovered)
    refine ⟨?_, fun after => ?_⟩
    · grind [text_le_iff_not_after_iff, expired]
    · exact ((recordInScopeAt_iff found).mp (live.inScope.mpr after)).2
  · grind [Time.inTextOrder_iff, RecordRow.parses_of_inRange, ReadByInstant]

/-- A record that expires half a second after a whole one. -/
def halfSecondRecord : Record :=
  ⟨str "c/n", str "pip_a", str "a", [1], halfSeconds 301, 1, true⟩

/-- The record is stored half a second before it expires; at that very reading no query
returns it, and the prune deletes it. -/
theorem record_expired_early :
    ∃ d, ({} : Discovery).putRecord halfSecondRecord (halfSeconds 300) = .ok d ∧
      halfSecondRecord.expiresAt.after (halfSeconds 300) = true ∧
      d.recordsAt (fun _ => none) (halfSeconds 300) (str "c/n") = .ok [] ∧
      (d.pruneExpiredRecords (halfSeconds 300)).records.lookup halfSecondRecord.key = none ∧
      ¬∀ key row, d.records.lookup key = some row →
        d.LiveExactly (fun _ => none) (halfSeconds 300) key row := by
  refine ⟨({} : Discovery).putRow halfSecondRecord.key halfSecondRecord.row,
    rfl, by decide, by decide +kernel, by decide +kernel, fun live => ?_⟩
  have listed := (live halfSecondRecord.key halfSecondRecord.row (by decide +kernel)).pruned rfl
  exact absurd (listed.mpr (by decide)) (by decide +kernel)

end Discovery

end Tubo
