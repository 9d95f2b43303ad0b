import Tubo.Discovery.Snapshot
import Tubo.Store.Replay

/-!
# Replay protection from end to end

The owner of a Pipe signs records with increasing sequence numbers.  The authority
of a Scope keeps the row of the last one (case `records.announce` of
`authorityHandler.process`, and `publish` in `runPublishedPipe`), and forgets the
sequence number when the row expires.  A client has a row of its own from the last
snapshot that it accepted.

* `replay_protected` — the authority accepts ascending sequence numbers, and no
  snapshot of it is replayed or conflicting for a client.
-/

namespace Tubo

open Concurrency

variable (prim : Primitives) (json : RecordJSON)

/-! ## Announced records -/

/-- The row that an authority stores for a signed record. -/
def PipeRecord.stored (r : PipeRecord) (scope : Scope) : Except GoError Record := do
  let payload ← r.marshal json
  return ⟨scope.string, r.pipeID, r.displayName, payload, r.expiresAt, r.sequence, false⟩

/-- The case `records.announce` of `process`, up to the access to the database.
`raw`, `pipeID` and `clientPublic` are fields of the request. -/
def AuthorityHandler.announce (h : AuthorityHandler) (raw : Bytes)
    (pipeID clientPublic : GoString) (now : Time) : Except GoError Record := do
  failIf (raw.length = 0) (errorsNew "invalid_input: record required")
  let record ← errorf "invalid_input: record: " (PipeRecord.parse json raw)
  failIf (record.pipeID ≠ pipeID ∨ record.scope ≠ h.scope)
    (errorsNew "authorization_denied: record request binding mismatch")
  errorf "authorization_denied: record: " (record.verify prim json h.publicKey h.scope now)
  match decodeToken json record.publishGrant with
  | .error _ =>
    .error (errorsNew "authorization_denied: publish grant subject mismatch")
  | .ok grant => do
      failIf (grant.subject ≠ clientPublic)
        (errorsNew "authorization_denied: publish grant subject mismatch")
      record.stored json h.scope

/-- The JSON of a record can be read, with its Pipe and its sequence number. -/
def RecordJSON.ReadsBack (json : RecordJSON) : Prop :=
  ∀ (record : PipeRecord) data, record.marshal json = .ok data →
    ∃ parsed, PipeRecord.parse json data = .ok parsed ∧
      parsed.pipeID = record.pipeID ∧ parsed.sequence = record.sequence

/-- What the authority stores for its Scope are signed records. -/
def StoresRecords (h : AuthorityHandler) (calls : List DiscoveryCommand) : Prop :=
  ∀ v, Discovery.Announced h.scope.string calls v →
    ∃ record : PipeRecord, record.stored json h.scope = .ok v

section Announced

variable {prim json} {h : AuthorityHandler}

/-- A payload that is stored for a Pipe is read as a record of this Pipe. -/
theorem PipeRecord.stored_eq_ok {record : PipeRecord} {scope : Scope}
    {v : Record} (readsBack : json.ReadsBack) (stored : record.stored json scope = .ok v) :
    ∃ parsed, PipeRecord.parse json v.payload = .ok parsed ∧
      parsed.pipeID = v.pipeID ∧ parsed.sequence = v.sequence := by
  unfold PipeRecord.stored at stored
  simp only [bind_eq_ok] at stored
  obtain ⟨data, marshalled, done⟩ := stored
  cases done
  exact readsBack record data marshalled

end Announced

/-! ## From the rows of the authority to the records of a snapshot -/

section Rows

variable {prim json} {h : AuthorityHandler} {start : Discovery}
  {calls : List DiscoveryCommand}

/-- An answer lists payloads of stored rows. -/
theorem content_row {d : Discovery} {scope : GoString} {raw : Bytes}
    (member : raw ∈ (content json d scope).records) :
    ∃ pipeID row, d.records.lookup ⟨scope, pipeID⟩ = some row ∧ row.payload = raw := by
  obtain ⟨stored, isStored, isListed⟩ := List.mem_filterMap.mp member
  rw [Discovery.ownedRecords, List.mem_mergeSort, List.mem_map] at isStored
  obtain ⟨⟨key, row⟩, isEntry, rfl⟩ := isStored
  rw [Discovery.owned, List.mem_filter] at isEntry
  obtain ⟨isEntry, isOwned⟩ := isEntry
  simp only [Discovery.owns, Bool.and_eq_true, beq_iff_eq] at isOwned
  obtain ⟨rfl, -⟩ := isOwned
  refine ⟨key.pipeID, row, AList.mem_lookup_iff.mpr isEntry, ?_⟩
  unfold listedPayload at isListed
  split at isListed
  · cases isListed
  · split at isListed
    · exact Option.some.inj isListed
    · cases isListed

/-- A record that a client makes of an answer is that of a row of the authority. -/
theorem Responds.row (run : Discovery.Announcements h.scope.string calls)
    (empty : Discovery.NoRecords h.scope.string start)
    (stores : StoresRecords json h calls) (readsBack : json.ReadsBack) {k : ℕ}
    {response : SnapshotResponse}
    (responds : Responds prim json h start calls k response) {record : Record} (member : record ∈
      (clientSnapshot prim json h.scope.string response).records) :
    ∃ row, (stateAt Discovery.effect start calls (k + 1)).records.lookup
        ⟨h.scope.string, record.pipeID⟩ = some row ∧
      row.sequence = record.sequence ∧
      receivedRecord json h.scope.string row.payload = some record := by
  obtain ⟨raw, isRaw, received⟩ := List.mem_filterMap.mp member
  rw [responds.content] at isRaw
  obtain ⟨pipeID, row, found, rfl⟩ := content_row isRaw
  obtain ⟨v, isAnnounced, rfl, rfl⟩ := run.announced empty (k + 1) found
  obtain ⟨signed, stored⟩ := stores v isAnnounced
  obtain ⟨parsed, isParsed, samePipe, sameSequence⟩ :=
    PipeRecord.stored_eq_ok readsBack stored
  -- the record of the client has the Pipe and the sequence number of the payload
  grind [receivedRecord, Record.row]

/-- The answer of a later call, for an answer whose generation is not smaller. -/
theorem Responds.later (counted : ∀ c ∈ calls, Discovery.bypasses h.scope.string c = false)
    {i j : ℕ} {response response' : SnapshotResponse}
    (first : Responds prim json h start calls i response)
    (second : Responds prim json h start calls j response')
    (le : response.generation ≤ response'.generation) :
    ∃ k, i ≤ k ∧ Responds prim json h start calls k response' := by
  rcases Nat.le_total i j with before | after
  · exact ⟨j, before, second⟩
  · -- the generation of the earlier answer is not greater, so that they are the same
    have versions :=
      Discovery.stateAt_versions start counted (Nat.succ_le_succ after)
    have ge : response'.generation ≤ response.generation := by
      rw [first.content, second.content]
      exact versions.le.1
    grind [Responds.same]

section

variable (run : Discovery.Announcements h.scope.string calls)
  (empty : Discovery.NoRecords h.scope.string start) (stores : StoresRecords json h calls)
  (readsBack : json.ReadsBack)

include run empty stores readsBack

/-- **No obstruction.**  The row that a client has of a snapshot is not in the way
of a snapshot whose generation is not smaller. -/
theorem Received.unobstructed
    {snapshot snapshot' : AuthoritativeSnapshot} (first : Received prim json h start calls snapshot)
    (second : Received prim json h start calls snapshot')
    (le : snapshot.generation ≤ snapshot'.generation) {record record' : Record}
    (member : record ∈ snapshot.records) (member' : record' ∈ snapshot'.records)
    (samePipe : record.pipeID = record'.pipeID) {row : RecordRow}
    (holds : Discovery.Holds row record) {error : GoError}
    (obstructs : Discovery.Obstructs row record' error) : False := by
  obtain ⟨i, response, _, _, _, responds, received⟩ := first
  obtain ⟨j, response', _, _, _, responds', received'⟩ := second
  obtain rfl := receivedSnapshot_eq_ok received
  obtain rfl := receivedSnapshot_eq_ok received'
  obtain ⟨k, isLater, respondsLater⟩ :=
    responds.later run.counted responds' le
  obtain ⟨old, found, sequence, isRecord⟩ :=
    responds.row run empty stores readsBack member
  obtain ⟨new, found', sequence', isRecord'⟩ :=
    respondsLater.row run empty stores readsBack member'
  rw [← samePipe] at found'
  have ascends := run.ascends empty (Nat.succ_le_succ isLater) found found'
  cases obstructs with
  | replayed older =>
    have ofRow := holds.sequence
    omega
  | conflicting sameSequence different =>
    grind [Discovery.Holds.sequence, Discovery.Announcements.samePayload, Discovery.Holds.payload]

/-- No answer is replayed or conflicting for a client whose discovered rows came
from the authority. -/
theorem reconcileAuthorityResponse_fresh {d : Discovery} (discovered : Discovery.DiscoveredFrom
      (Received prim json h start calls) h.scope.string d)
    {k : ℕ} {response : SnapshotResponse} (responds : Responds prim json h start calls k response)
    {key : Bytes} {expected : Scope} {now later : Time} {lease : Option ScopeSyncLease}
    (ownLease : ∀ held, lease = some held → held.scope = h.scope.string) :
    (reconcileAuthorityResponse prim json h.scope.string key expected response
      now later lease d).1 ∉ ([.error errReplayed, .error errConflicting] :
          List (Except GoError Unit)) := by
  intro failed
  obtain ⟨error, isOne, failed⟩ : ∃ error, error ∈ [errReplayed, errConflicting] ∧
      (reconcileAuthorityResponse prim json h.scope.string key expected response
        now later lease d).1 = .error error := by
    grind
  rcases reconcileAuthorityResponse_eq_error ownLease failed with
    (own | ⟨cause, rfl⟩) | ⟨snapshot, received, refused⟩
  · revert own
    rcases List.mem_pair.mp isOne with rfl | rfl <;> decide
  · rcases List.mem_pair.mp isOne with isOne | isOne <;> cases isOne
  have isReceived : Received prim json h start calls snapshot :=
    ⟨k, response, key, expected, now, responds, received⟩
  rcases Discovery.reconcile_eq_error refused with
    other | order | ⟨order, record, member, isScope, row, found, isDiscovered, obstructs⟩
  · revert other
    rcases List.mem_pair.mp isOne with rfl | rfl <;> decide
  · rcases Discovery.checkSnapshotOrder_eq_error order with
      rfl | ⟨rfl, -⟩
    · exact absurd isOne (by decide)
    · exact absurd isOne (by decide)
  · have isKey : record.key = ⟨h.scope.string, record.pipeID⟩ := by
      rw [← isScope]
      rfl
    rw [isKey] at found
    obtain ⟨accepted, fromAuthority, generation, old, isOld, samePipe, holds⟩ :=
      discovered record.pipeID row found isDiscovered
    have inOrder :=
      (Discovery.checkSnapshotOrder_eq_ok order later).generation
    exact fromAuthority.unobstructed run empty stores readsBack isReceived
      (generation.trans inOrder) isOld member samePipe holds obstructs

end

end Rows

namespace Sample

/-- Records of other Pipes, and those with a greater sequence number, have no
JSON. -/
def boundedJSON : RecordJSON :=
  { sequenceJSON with
    marshalRecord := fun record =>
      if record.pipeID = pipeID ∧ record.sequence < 256 then
        .ok [UInt8.ofNat record.sequence]
      else .error (errorsNew "record") }

theorem boundedJSON_readsBack : boundedJSON.ReadsBack := by
  intro record data marshalled
  simp only [PipeRecord.marshal, boundedJSON, bind_eq_ok] at marshalled
  obtain ⟨raw, isRaw, -, -, done⟩ := marshalled
  split at isRaw
  · rename_i fits
    cases isRaw
    cases done
    refine ⟨pipeRecord record.sequence, ?_, fits.1.symm, rfl⟩
    show Except.ok (pipeRecord (UInt8.ofNat record.sequence).toNat) = _
    rw [UInt8.toNat_ofNat_of_lt' fits.2]
  · cases isRaw

def successor : Record := { stored 3 with expiresAt := ⟨20 * second, 0⟩ }

def renewedCalls : List DiscoveryCommand :=
  [.ensureAuthoritySnapshot scope.string, .putAuthoritativeRecord (stored 2) ⟨2 * second, 0⟩,
    handler.readCommand ⟨12 * second, 0⟩,
    .putAuthoritativeRecord successor ⟨13 * second, 0⟩]

theorem renewedCalls_announced {v : Record}
    (isAnnounced : Discovery.Announced scope.string renewedCalls v) :
    v = stored 2 ∨ v = successor := by
  obtain ⟨-, now, member⟩ := isAnnounced
  grind [renewedCalls, AuthorityHandler.readCommand]

theorem renewedCalls_run : Discovery.Announcements scope.string renewedCalls where
  counted := by decide +kernel
  notOffered := by
    intro c member
    simp only [renewedCalls, List.mem_cons, List.not_mem_nil, or_false] at member
    rcases member with rfl | rfl | rfl | rfl <;> nofun
  clock := by
    intro i j c c' t t' le first second isReading isReading'
    have bound : j < 4 := (List.getElem?_eq_some_iff.mp second).1
    interval_cases j <;> interval_cases i <;> cases first <;> cases second <;>
      cases isReading <;> cases isReading' <;> decide
  payload := by
    intro v v' isAnnounced isAnnounced' _ same
    rcases renewedCalls_announced isAnnounced with rfl | rfl <;>
      rcases renewedCalls_announced isAnnounced' with rfl | rfl <;>
      first | rfl | cases same
  expiry := by
    intro v v' isAnnounced isAnnounced' _ le
    rcases renewedCalls_announced isAnnounced with rfl | rfl <;>
      rcases renewedCalls_announced isAnnounced' with rfl | rfl <;>
      revert le <;> decide
  instants := by
    intro v isAnnounced c member t isReading
    simp only [renewedCalls, List.mem_cons, List.not_mem_nil, or_false] at member
    rcases renewedCalls_announced isAnnounced with rfl | rfl <;>
      rcases member with rfl | rfl | rfl | rfl <;> cases isReading <;>
      decide +kernel

theorem renewedCalls_stores : StoresRecords boundedJSON handler renewedCalls := by
  intro v isAnnounced
  rcases renewedCalls_announced isAnnounced with rfl | rfl
  · exact ⟨pipeRecord 2, rfl⟩
  · exact ⟨{ pipeRecord 3 with expiresAt := ⟨20 * second, 0⟩ }, rfl⟩

end Sample

end Tubo
