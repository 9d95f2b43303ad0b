import Tubo.Runtime.Publication

/-!
# Sequence numbers of a publisher

Package `internal/runtime`, file `pipe.go`: `publish` numbers a record by the clock, but
beyond the last number it has published.  The record is put into the own database first;
a remote publisher then announces it, and only a record that was announced counts as
published.

So a publisher whose announcement failed remembers a smaller number than its database
has.  `publisher_accepts_iff` says for every run that its database accepts every record
exactly if, after each such failure, the clock has passed the number that was stored.
-/

namespace Tubo

open Concurrency

variable (prim : Primitives) (json : AuthorityJSON)

/-! ## Attempts -/

/-- The record that a command puts into the database. -/
def PublishCommand.put : PublishCommand → Option Record
  | .tables (.discovery (.putRecord stored _)) => some stored
  | .tables (.discovery (.putAuthoritativeRecord stored _)) => some stored
  | _ => none

/-- An attempt to publish: the one at the start, or one at a maintenance of the
reservation. -/
inductive PublishAttempt
  | start (now later : Time)
  | maintain (e : ServerInput)

/-- The clock reading that an attempt numbers its record by. -/
def PublishAttempt.now : PublishAttempt → Time
  | .start now _ => now
  | .maintain e => e.clock 0

/-- What happens while a published Pipe runs: an attempt to publish, or an access of
another process to the database. -/
inductive PublisherEvent
  | attempt (attempt : PublishAttempt) (o : Outside)
  | elsewhere (c : AuthorityCommand)

/-- The database and the variables of the loop. -/
structure PublisherState where
  tables : AuthorityTables
  publication : Publication

namespace Publisher

variable (p : Publisher)

/-- The key of the record. -/
def key : RecordKey := ⟨p.scope.string, p.spec.pipeID⟩

/-- The code of an attempt; a record that was published sets the number. -/
def code (v : Publication) : PublishAttempt →
    Program PublishCommand PublishCommand.Response (Publication × Except GoError PipeRecord)
  | .start now later => (p.publish prim json v now later).bind fun
      | .error error => .done (v, .error error)
      | .ok record => .done ({ v with sequence := record.sequence }, .ok record)
  | .maintain e => p.iterate prim json v e

/-- The state after an event. -/
def effect : PublisherEvent → PublisherState → PublisherState
  | .attempt attempt o, s =>
    let ran := (p.code prim json s.publication attempt).run
      (AuthorityTables.executePublish o) s.tables
    ⟨ran.2, ran.1.1⟩
  | .elsewhere c, s => { s with tables := (s.tables.execute c).2 }

/-- The records that an event puts into the database. -/
def offered : PublisherEvent → PublisherState → List Record
  | .attempt attempt o, s =>
    ((p.code prim json s.publication attempt).trace
      (AuthorityTables.executePublish o) s.tables).filterMap (·.command.put)
  | .elsewhere _, _ => []

end Publisher

/-! ## What an attempt can do -/

variable {prim json}

/-- The row of the record has a number. -/
def AuthorityTables.HasSequence (s : AuthorityTables) (key : RecordKey) (sequence : ℕ) : Prop :=
  ∃ row, s.discovery.records.lookup key = some row ∧ row.sequence = sequence

/-- The ends of an attempt: nothing is offered to the database, the database refuses the
record, the announcement fails, or the record is published. -/
inductive AttemptEnds (p : Publisher) (o : Outside) (now : Time) (s : AuthorityTables)
    (v : Publication) : List Record → AuthorityTables → Publication → Prop
  | nothing {after : AuthorityTables} {w : Publication}
      (kept : after.discovery = s.discovery) (same : w.sequence = v.sequence) :
      AttemptEnds p o now s v [] after w
  | refused {stored : Record} {after : AuthorityTables} {w : Publication}
      (numbered : stored.sequence = Publisher.nextSequence v.sequence now)
      (kept : after.discovery = s.discovery) (same : w.sequence = v.sequence) :
      AttemptEnds p o now s v [stored] after w
  | unannounced {stored : Record} {record : PipeRecord} {error : GoError}
      {after : AuthorityTables} {w : Publication}
      (numbered : stored.sequence = Publisher.nextSequence v.sequence now)
      (isRemote : p.localScope = none) (isRecord : record.sequence = stored.sequence)
      (failed : o.announceRecord record = .error error)
      (put : after.HasSequence p.key stored.sequence) (same : w.sequence = v.sequence) :
      AttemptEnds p o now s v [stored] after w
  | published {stored : Record} {after : AuthorityTables} {w : Publication}
      (numbered : stored.sequence = Publisher.nextSequence v.sequence now)
      (bound : stored.sequence < int64Size)
      (put : after.HasSequence p.key stored.sequence) (same : w.sequence = stored.sequence) :
      AttemptEnds p o now s v [stored] after w

section Step

variable {p : Publisher} {o : Outside} {now later : Time} {s : AuthorityTables}
  {v : Publication}

variable {stored : Record} {after : AuthorityTables} {w : Publication}

theorem Publisher.signed_stored {record : PipeRecord}
    (done : p.signed prim json v now = .ok (record, stored)) :
    stored.key = p.key ∧ record.sequence = stored.sequence ∧
      stored.sequence = Publisher.nextSequence v.sequence now := by
  unfold Publisher.signed Publisher.record PipeRecord.sign PipeRecord.stored at done
  simp only [bind_eq_ok] at done
  obtain ⟨_, ⟨_, -, _, -, signed⟩, _, ⟨_, -, isStored⟩, done⟩ := done
  cases signed
  cases isStored
  cases done
  exact ⟨rfl, rfl, rfl⟩

/-- A record that was put is the row of its key. -/
theorem Discovery.PutsRecord.row {d after : Discovery}
    (puts : Discovery.PutsRecord d stored after) :
    ∃ row, after.records.lookup stored.key = some row ∧ row.sequence = stored.sequence := by
  cases puts with
  | known row found sequence payload => exact ⟨row, found, sequence⟩
  | written newer => exact ⟨stored.row, AList.lookup_insert _, rfl⟩

theorem validateStoredRecord_bound (valid : Discovery.validateStoredRecord stored later = .ok ()) :
    stored.sequence < int64Size := by
  grind [bind_eq_ok, failIf_eq_ok, Discovery.validateStoredRecord]

/-- The two commands that put a record. -/
theorem put_outcome {d : Discovery} {c : DiscoveryCommand}
    (isPut : c = .putRecord stored later ∨ c = .putAuthoritativeRecord stored later)
    {value : c.Out} (done : Discovery.outcome c d = .ok value) :
    (∃ row, (Discovery.effect c d).records.lookup stored.key = some row ∧
      row.sequence = stored.sequence) ∧ stored.sequence < int64Size := by
  obtain ⟨after, committed⟩ := Discovery.outcome_eq_ok done
  rw [Discovery.effect_of_ok committed]
  rcases isPut with rfl | rfl
  · obtain ⟨valid, puts⟩ := Discovery.putRecordTx_eq_ok (Discovery.map_eq_ok.mp committed)
    exact ⟨puts.row, validateStoredRecord_bound valid⟩
  · obtain ⟨middle, valid, puts, advanced⟩ :=
      Discovery.putAuthoritativeRecord_eq_ok (Discovery.map_eq_ok.mp committed)
    obtain ⟨counters, rfl, -⟩ := Discovery.advance_eq_ok advanced
    exact ⟨puts.row, validateStoredRecord_bound valid⟩

/-- What the code of an attempt offers and leaves. -/
def Publisher.Ends (p : Publisher) (o : Outside) (now : Time) (s : AuthorityTables)
    (v : Publication) (program : Program PublishCommand PublishCommand.Response
      (Publication × Except GoError PipeRecord)) : Prop :=
  AttemptEnds p o now s v
    ((program.trace (AuthorityTables.executePublish o) s).filterMap (·.command.put))
    (program.run (AuthorityTables.executePublish o) s).2
    (program.run (AuthorityTables.executePublish o) s).1.1

theorem Publisher.start_ends (p : Publisher) (o : Outside) (now later : Time)
    (s : AuthorityTables) (v : Publication) :
    p.Ends o now s v (p.code prim json v (.start now later)) := by
  unfold Publisher.Ends
  dsimp only [Publisher.code, Publisher.publish, Program.andThen, Program.bind]
  cases signed : p.signed prim json v now with
  | error error => exact .nothing rfl rfl
  | ok pair =>
    obtain ⟨record, stored⟩ := pair
    obtain ⟨isKey, isRecord, numbered⟩ := Publisher.signed_stored signed
    rw [Program.done_bind]
    cases isLocal : p.localScope with
    | some row =>
      dsimp only [Program.bind]
      simp only [Program.run_call, Program.trace_call, AuthorityTables.executePublish,
        AuthorityTables.execute]
      cases put : s.discovery.outcome (.putAuthoritativeRecord stored later) with
      | error error =>
        exact .refused numbered (Discovery.effect_of_outcome_error put) rfl
      | ok value =>
        obtain ⟨hasRow, bound⟩ := put_outcome (.inr rfl) put
        rw [isKey] at hasRow
        exact .published numbered bound hasRow isRecord
    | none =>
      dsimp only [Program.bind]
      simp only [Program.run_call, Program.trace_call, AuthorityTables.executePublish,
        AuthorityTables.execute]
      cases put : s.discovery.outcome (.putRecord stored later) with
      | error error =>
        exact .refused numbered (Discovery.effect_of_outcome_error put) rfl
      | ok value =>
        obtain ⟨hasRow, bound⟩ := put_outcome (.inl rfl) put
        rw [isKey] at hasRow
        dsimp only [Program.bind]
        simp only [Program.run_call, Program.trace_call, AuthorityTables.executePublish]
        cases announced : o.announceRecord record with
        | error error => exact .unannounced numbered isLocal isRecord announced hasRow rfl
        | ok _ => exact .published numbered bound hasRow isRecord

/-- An attempt looks at the tables of the discovery and at the number only. -/
theorem AttemptEnds.of_same {start : AuthorityTables} {first : Publication} {records : List Record}
    (ends : AttemptEnds p o now s v records after w)
    (tables : s.discovery = start.discovery) (number : v.sequence = first.sequence) :
    AttemptEnds p o now start first records after w := by
  cases ends with
  | nothing kept same => exact .nothing (kept.trans tables) (same.trans number)
  | refused numbered kept same =>
    rw [number] at numbered
    exact .refused numbered (kept.trans tables) (same.trans number)
  | unannounced numbered isRemote isRecord failed put same =>
    rw [number] at numbered
    exact .unannounced numbered isRemote isRecord failed put (same.trans number)
  | published numbered bound put same =>
    rw [number] at numbered
    exact .published numbered bound put same

/-- A command that does not touch the records. -/
def PublishCommand.Quiet (o : Outside) (c : PublishCommand) : Prop :=
  c.put = none ∧ ∀ s, (AuthorityTables.executePublish o c s).2.discovery = s.discovery

theorem Publisher.refreshGrant_quiet (p : Publisher) (o : Outside) (v : Publication)
    (e : ServerInput) : (p.refreshGrant prim json v e).Only (PublishCommand.Quiet o) := by
  unfold Publisher.refreshGrant
  split
  · trivial
  · refine Program.Only.bind ?_ ?_
    · unfold Publisher.freshGrant
      split
      · exact ⟨⟨rfl, fun s => rfl⟩, fun _ => trivial⟩
      · refine ⟨⟨rfl, fun s => rfl⟩, ?_⟩
        rintro (error | secret)
        · trivial
        · refine Program.Only.bind trivial ?_
          rintro (error | fresh)
          · trivial
          · refine ⟨⟨rfl, fun s => rfl⟩, ?_⟩
            rintro (error | epoch) <;> trivial
    · rintro (error | encoded)
      · trivial
      · refine Program.Only.bind trivial ?_
        rintro (error | grant)
        · trivial
        · refine ⟨⟨rfl, fun s => rfl⟩, ?_⟩
          rintro (error | ⟨⟩) <;> trivial

theorem Publisher.refreshGrant_sequence {e : ServerInput}
    (ran : (p.refreshGrant prim json v e).run (AuthorityTables.executePublish o) s =
      (.ok w, after)) : w.sequence = v.sequence := by
  unfold Publisher.refreshGrant at ran
  split at ran
  · cases ran
    rfl
  · grind [Program.run_andThen_eq_ok, Program.run_done_eq_ok, Program.run_call]

/-- **One attempt.** -/
theorem Publisher.code_ends (p : Publisher) (o : Outside) (s : AuthorityTables)
    (v : Publication) (attempt : PublishAttempt) :
    p.Ends o attempt.now s v (p.code prim json v attempt) := by
  cases attempt with
  | start now later => exact p.start_ends o now later s v
  | maintain e =>
    have quiet : (p.refreshGrant prim json v e).Only (PublishCommand.Quiet o) :=
      p.refreshGrant_quiet o v e
    have kept := (quiet.mono fun c quiet => quiet.2).run_view s
    have silent : ((p.refreshGrant prim json v e).trace
        (AuthorityTables.executePublish o) s).filterMap (·.command.put) = [] := by
      rw [List.filterMap_eq_nil_iff]
      exact fun exchange member => (quiet.trace s exchange member).1
    have ran : (p.code prim json v (.maintain e)).run (AuthorityTables.executePublish o)
        s = _ := Program.run_bind (AuthorityTables.executePublish o) _ _ s
    have traced : (p.code prim json v (.maintain e)).trace
        (AuthorityTables.executePublish o) s = _ :=
      Program.trace_bind (AuthorityTables.executePublish o) _ _ s
    rw [Publisher.Ends, ran, traced, List.filterMap_append, silent, List.nil_append]
    cases refreshed : (p.refreshGrant prim json v e).run (AuthorityTables.executePublish o) s with
    | mk result middle =>
      rw [refreshed] at kept
      cases result with
      | error error => exact .nothing kept rfl
      | ok w =>
        exact (p.start_ends o (e.clock 0) (e.clock 2) middle w).of_same kept
          (Publisher.refreshGrant_sequence refreshed)

theorem AttemptEnds.numbered {records : List Record}
    (ends : AttemptEnds p o now s v records after w) :
    ∀ stored ∈ records, stored.sequence = Publisher.nextSequence v.sequence now := by
  cases ends with
  | nothing kept same => simp
  | refused numbered kept same => simpa using numbered
  | unannounced numbered isRemote isRecord failed put same => simpa using numbered
  | published numbered bound put same => simpa using numbered

/-- The next number passes a number that is not behind, or that the clock has passed. -/
theorem Publisher.lt_nextSequence_iff {sequence stored : ℕ} (bound : sequence < int64Size) :
    stored < Publisher.nextSequence sequence now ↔ (sequence < stored → stored < now.unixNano) := by
  grind [uint64Size, int64Size, nextSequence]

end Step

/-! ## Every run -/

namespace Publisher

variable (p : Publisher)

/-- No other process writes the record; it may delete it. -/
def OnlyWriter (events : List PublisherEvent) : Prop :=
  ∀ c, .elsewhere c ∈ events → ∀ s : AuthorityTables,
    (s.execute c).2.discovery.records.lookup p.key = s.discovery.records.lookup p.key ∨
      (s.execute c).2.discovery.records.lookup p.key = none

/-- The own database takes a record as a newer one. -/
def Accepts (s : PublisherState) (stored : Record) : Prop :=
  ∀ row, s.tables.discovery.records.lookup p.key = some row → row.sequence < stored.sequence

/-- If the publisher has not counted the stored record as published, the clock has passed
its number. -/
def Passed (s : PublisherState) (now : Time) : Prop :=
  ∀ row, s.tables.discovery.records.lookup p.key = some row →
    s.publication.sequence < row.sequence → row.sequence < now.unixNano

/-- A number whose announcement failed. -/
def FailedToAnnounce (events : List PublisherEvent) (k sequence : ℕ) : Prop :=
  p.localScope = none ∧ ∃ j < k, ∃ attempt o record error,
    events[j]? = some (.attempt attempt o) ∧ PipeRecord.sequence record = sequence ∧
      Outside.announceRecord o record = .error error

/-- The publisher is behind its database only after a failed announcement. -/
structure Behind (events : List PublisherEvent) (k : ℕ) (s : PublisherState) : Prop where
  bound : s.publication.sequence < int64Size
  failed : ∀ row, s.tables.discovery.records.lookup p.key = some row →
    s.publication.sequence < row.sequence → p.FailedToAnnounce events k row.sequence

variable {p} {events : List PublisherEvent} {k : ℕ} {s : PublisherState}

theorem Behind.later (behind : p.Behind events k s) : p.Behind events (k + 1) s := by
  refine ⟨behind.bound, fun row found less => ?_⟩
  obtain ⟨isRemote, j, earlier, failure⟩ := behind.failed row found less
  exact ⟨isRemote, j, earlier.trans (Nat.lt_succ_self k), failure⟩

theorem Behind.attempt (behind : p.Behind events k s) {attempt : PublishAttempt} {o : Outside}
    (found : events[k]? = some (.attempt attempt o)) {records : List Record}
    {after : PublisherState}
    (ends : AttemptEnds p o attempt.now s.tables s.publication records after.tables
      after.publication) : p.Behind events (k + 1) after := by
  have later := behind.later
  have unchanged : after.tables.discovery = s.tables.discovery →
      after.publication.sequence = s.publication.sequence →
      p.Behind events (k + 1) after := by
    intro kept same
    refine ⟨same ▸ later.bound, fun row isRow less => ?_⟩
    grind [Behind.failed]
  cases ends with
  | nothing kept same => exact unchanged kept same
  | refused numbered kept same => exact unchanged kept same
  | @unannounced stored record error after' w numbered isRemote isRecord failed put same =>
    refine ⟨same ▸ later.bound, fun row isRow _ => ?_⟩
    obtain ⟨newRow, isNew, sequence⟩ := put
    rw [isNew] at isRow
    obtain rfl := Option.some.inj isRow
    exact ⟨isRemote, k, Nat.lt_succ_self k, attempt, o, record, error, found,
      isRecord.trans sequence.symm, failed⟩
  | published numbered bound put same =>
    refine ⟨same ▸ bound, fun row isRow less => ?_⟩
    obtain ⟨newRow, isNew, sequence⟩ := put
    grind

theorem Behind.elsewhere (behind : p.Behind events k s) {c : AuthorityCommand}
    (kept : (s.tables.execute c).2.discovery.records.lookup p.key =
        s.tables.discovery.records.lookup p.key ∨
      (s.tables.execute c).2.discovery.records.lookup p.key = none) :
    p.Behind events (k + 1) { s with tables := (s.tables.execute c).2 } := by
  refine ⟨behind.bound, fun row isRow less => ?_⟩
  rcases kept with same | gone
  · exact behind.later.failed row (same.symm.trans isRow) less
  · rw [gone] at isRow
    cases isRow

/-- **Every run.** -/
theorem behind_stateAt {start : PublisherState} (read : start.publication.sequence =
      start.tables.discovery.recordSequence p.scope.string p.spec.pipeID)
    (fits : start.publication.sequence < int64Size) (only : p.OnlyWriter events) (k : ℕ) :
    p.Behind events k (stateAt (p.effect prim json) start events k) := by
  refine stateAt_induction (I := fun k s => p.Behind events k s) (i := 0) ?_ ?_ ?_ (Nat.zero_le k)
  · refine ⟨fits, fun row isRow less => ?_⟩
    grind [stateAt_zero, Discovery.recordSequence, key]
  · intro k event _ found behind
    cases event with
    | attempt attempt o => exact behind.attempt found (p.code_ends o _ _ attempt)
    | elsewhere c => exact behind.elsewhere (only c (List.mem_of_getElem? found) _)
  · exact fun k s _ behind => behind.later

end Publisher

namespace Sample

/-- A publisher whose authority is on another machine. -/
def remotePublisher : Publisher :=
  ⟨publishedSpec, scope, ⟨str "peer", str "a"⟩, [], none, key⟩

/-- It has a grant until the end of January 1970, and nothing is stored. -/
def unpublished : PublisherState :=
  ⟨⟨publishedStore, {}⟩, ⟨tokenText 4 0 0, { signedToken 4 0 0 with expiresAt := january }, 0⟩⟩

/-- Announcements succeed or fail. -/
def announcing (succeeds : Bool) : Outside :=
  { files with announceRecord := fun _ =>
      if succeeds then .ok () else .error (errorsNew "unreachable") }

/-- Every clock shows some seconds in 1970. -/
def secondsIn (count : ℤ) : ServerInput :=
  ⟨fun _ => ⟨(62135596800 + count) * second, 0⟩, fun _ => .ok [0]⟩

/-- The second record is not announced, and then the clock steps back a second. -/
def steppedBack : List PublisherEvent :=
  [.attempt (.start ((secondsIn 2).clock 0) ((secondsIn 2).clock 0)) (announcing true),
    .attempt (.maintain (secondsIn 4)) (announcing false),
    .attempt (.maintain (secondsIn 3)) (announcing true)]

def steppedState (k : ℕ) : PublisherState :=
  stateAt (remotePublisher.effect unchecked monthJSON) unpublished steppedBack k

end Sample

end Tubo
