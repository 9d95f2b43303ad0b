import Tubo.Discovery.Record
import Tubo.Protocol.Frame
import Tubo.Runtime.Serve
import Tubo.Store.Generations

/-!
# Snapshots from the authority to the client

Package `internal/runtime`: `processSnapshot` of `authority.go` answers a request
with the records that the authority of a Scope owns, and
`reconcileAuthorityResponse` of `client.go` turns the answer into a snapshot for
the store of the client.

`processSnapshot` makes one access to the database, the transaction of
`AuthoritySnapshot`.  Every clock reading is an argument: `clock 0` is that of the
token check, `clock 1` that of the transaction, and the others those of the
records.

* `generation_names_content` — two answers with one generation have one high-water
  mark and the same records, so that no client rejects one as ambiguous; and every
  change of the authority's records advances both counters, which never wrap.
-/

namespace Tubo

open Concurrency

variable (prim : Primitives) (json : RecordJSON)

/-! ## The authority -/

/-- `wire.AuthoritySnapshotRequest`. -/
structure SnapshotRequest where
  token : GoString
  clientPublic : GoString
  nonce : GoString
  proof : GoString
  deriving DecidableEq, Repr

/-- `wire.AuthoritySnapshotResponse` with `OK`. -/
structure SnapshotResponse where
  generation : ℕ
  highWater : ℕ
  records : List Bytes
  deriving DecidableEq, Repr

/-- `authorityHandler`; `encodedLength` is the length of the JSON of a response,
if it can be encoded. -/
structure AuthorityHandler where
  scope : Scope
  publicKey : Bytes
  encodedLength : SnapshotResponse → Option ℕ

namespace AuthorityHandler

/-- The roles that may discover. -/
def discoverRoles : List GoString :=
  [str "member", str "viewer", str "publisher", str "forwarder"]

/-- The checks of `processSnapshot` on the request. -/
def checkRequest (h : AuthorityHandler) (request : SnapshotRequest)
    (now : Time) : Except GoError Unit := do
  failIf (boundedStrings 8192 [request.clientPublic, request.nonce,
      request.proof] = false ∨ maxTokenSize < request.token.length)
    (errorsNew "invalid_input: authority field exceeds limit")
  let invite ← errorf "authorization_denied: " (decodeToken json request.token)
  errorf "authorization_denied: " (invite.verify prim json h.publicKey now)
  failIf (invite.type ≠ str "membership.invite" ∨ invite.scope ≠ h.scope)
    (errorsNew "authorization_denied: invalid membership invite")
  failIf (invite.role ∉ discoverRoles) (errorsNew "authorization_denied: role cannot discover")
  match authorityPublicFromString request.clientPublic with
  | .error _ => .error (errorsNew "authorization_denied: invalid client key")
  | .ok clientPublic =>
    failIf (authorityVerifyProof prim clientPublic request.proof
        (str "tubo-authority-v2") [str "records.list", [], request.nonce, invite.jti] = false)
      (errorsNew "authorization_denied: invalid proof of possession")

/-- The error for a stored record that is not valid. -/
def errStoredInvalid : GoError :=
  errorsNew "persistence_failed: authority stored invalid discovery record"

/-- The loop of `processSnapshot`: the payloads of the discoverable records. -/
def listPayloads (h : AuthorityHandler) : (ℕ → Time) → List Record → Except GoError (List Bytes)
  | _, [] => .ok []
  | clock, stored :: rest =>
    match PipeRecord.parse json stored.payload with
    | .error _ => .error errStoredInvalid
    | .ok record =>
      match record.verify prim json h.publicKey h.scope (clock 0) with
      | .error _ => .error errStoredInvalid
      | .ok () => do
          let payloads ← h.listPayloads (fun k => clock (k + 1)) rest
          return if record.visibility = .discoverable then
            stored.payload :: payloads
          else payloads

/-- The error for an answer that is too large. -/
def errIncomplete : GoError :=
  errorsNew "incomplete authoritative snapshot: response exceeds bounds"

/-- The end of `processSnapshot`, after the access to the database. -/
def answer (h : AuthorityHandler) (clock : ℕ → Time)
    (read : Except GoError Discovery.SnapshotRead) :
    Except GoError SnapshotResponse := do
  let read ← read
  failIf (read.complete = false) errIncomplete
  let payloads ← h.listPayloads prim json clock read.records
  let response : SnapshotResponse := ⟨read.generation, read.highWater, payloads⟩
  match h.encodedLength response with
  | none => .error errIncomplete
  | some length => do
      failIf (maxFrame < length) errIncomplete
      return response

/-- The access of `processSnapshot` to the database. -/
def readCommand (h : AuthorityHandler) (now : Time) : DiscoveryCommand :=
  .authoritySnapshot h.scope.string maxSnapshotRecords now

/-- `processSnapshot`. -/
def processSnapshot (h : AuthorityHandler) (request : SnapshotRequest)
    (clock : ℕ → Time) (d : Discovery) : Except GoError SnapshotResponse × Discovery :=
  match h.checkRequest prim json request (clock 0) with
  | .error error => (.error error, d)
  | .ok () =>
    (h.answer prim json (fun k => clock (k + 2)) (Discovery.outcome (h.readCommand (clock 1)) d),
      Discovery.effect (h.readCommand (clock 1)) d)

end AuthorityHandler

/-! ## The client -/

/-- `hex.EncodeToString`. -/
def hexEncode (data : Bytes) : GoString :=
  data.flatMap fun byte =>
    [hexDigit (byte.toNat / 16), hexDigit (byte.toNat % 16)]
where
  hexDigit (value : ℕ) : UInt8 := UInt8.ofNat (Nat.digitChar value).toNat

/-- The loop of `reconcileAuthorityResponse`: the records of an answer, as they
are stored. -/
def receivedRecords (scope : GoString) (key : Bytes) (expected : Scope)
    (now : Time) : List GoString → List Bytes → Except GoError (List Record)
  | _, [] => .ok []
  | seen, raw :: rest => do
      let record ← errorf "invalid discovered record: " (PipeRecord.parse json raw)
      errorf "invalid discovered record: " (record.verify prim json key expected now)
      failIf (record.pipeID ∈ seen) (errorsNew "invalid authoritative snapshot duplicate pipe_id")
      let data ← errorf "invalid discovered record: " (record.marshal json)
      let records ← receivedRecords scope key expected now (record.pipeID :: seen) rest
      return ⟨scope, record.pipeID, record.displayName, data, record.expiresAt,
        record.sequence, true⟩ :: records

/-- The digest of the records of a snapshot: their identifiers and payloads,
sorted, each followed by NUL. -/
def snapshotDigest (records : List Record) : GoString :=
  let keys := (records.map fun record =>
    record.pipeID ++ [0] ++ record.payload).mergeSort fun a b => decide (a ≤ b)
  hexEncode (prim.sha256 (keys.flatMap (· ++ [0])))

/-- The snapshot of `reconcileAuthorityResponse`. -/
def receivedSnapshot (scope : GoString) (key : Bytes) (expected : Scope)
    (response : SnapshotResponse) (now : Time) :
    Except GoError AuthoritativeSnapshot := do
  failIf (response.generation = 0 ∨ response.highWater = 0 ∨
      maxSnapshotRecords < response.records.length)
    (errorsNew "invalid authoritative snapshot metadata")
  let records ← receivedRecords prim json scope key expected now [] response.records
  return ⟨snapshotSourcePinnedAuthority, true, response.generation,
    response.highWater, snapshotDigest prim records, records⟩

/-- The access of `reconcileAuthorityResponse` to the database. -/
def reconcileCommand (scope : GoString) (snapshot : AuthoritativeSnapshot)
    (lease : Option ScopeSyncLease) (now : Time) : DiscoveryCommand :=
  match lease with
  | none => .reconcile scope snapshot now
  | some lease => .reconcileWithLease lease snapshot now

/-- `reconcileAuthorityResponseWithLease`: `now` is the clock reading of the
checks, and `later` that of the transaction. -/
def reconcileAuthorityResponse (scope : GoString) (key : Bytes)
    (expected : Scope) (response : SnapshotResponse) (now later : Time)
    (lease : Option ScopeSyncLease) (d : Discovery) : Except GoError Unit × Discovery :=
  match receivedSnapshot prim json scope key expected response now with
  | .error error => (.error error, d)
  | .ok snapshot =>
    let c := reconcileCommand scope snapshot lease later
    ((Discovery.outcome c d).map fun _ => (), Discovery.effect c d)

/-! ## What an answer carries -/

/-- The payload of a stored record, if an answer lists it. -/
def listedPayload (stored : Record) : Option Bytes :=
  match PipeRecord.parse json stored.payload with
  | .error _ => none
  | .ok record =>
    if record.visibility = .discoverable then some stored.payload else none

/-- The answer that the tables of an authority stand for. -/
def content (d : Discovery) (scope : GoString) : SnapshotResponse :=
  ⟨(d.counters scope).generation, (d.counters scope).highWater,
    (d.ownedRecords scope).filterMap (listedPayload json)⟩

/-- `Responds h start calls k response`: in a run on the authority's store, the
`k`-th call is that of a `processSnapshot` with this answer. -/
def Responds (h : AuthorityHandler) (start : Discovery)
    (calls : List DiscoveryCommand) (k : ℕ) (response : SnapshotResponse) : Prop :=
  ∃ request clock, calls[k]? = some (h.readCommand (clock 1)) ∧
    (h.processSnapshot prim json request clock
      (stateAt Discovery.effect start calls k)).1 = .ok response

section Content

variable {prim json} {h : AuthorityHandler}

variable {clock : ℕ → Time} {response : SnapshotResponse}

theorem AuthorityHandler.listPayloads_eq_ok {records : List Record} {payloads : List Bytes}
    (done : h.listPayloads prim json clock records = .ok payloads) :
    payloads = records.filterMap (listedPayload json) := by
  induction records generalizing clock payloads with
  | nil =>
    cases done
    rfl
  | cons stored rest ih =>
    rw [listPayloads] at done
    split at done
    · cases done
    split at done
    · cases done
    simp only [bind_eq_ok] at done
    obtain ⟨payloads', listed, done⟩ := done
    cases done
    grind [listedPayload]

theorem AuthorityHandler.answer_eq_ok {read : Except GoError Discovery.SnapshotRead}
    (done : h.answer prim json clock read = .ok response) :
    ∃ value, read = .ok value ∧ value.complete = true ∧
      response = ⟨value.generation, value.highWater,
        value.records.filterMap (listedPayload json)⟩ := by
  unfold answer at done
  simp only [bind_eq_ok, failIf_eq_ok, Bool.not_eq_false] at done
  obtain ⟨value, isRead, -, complete, payloads, listed, done⟩ := done
  refine ⟨value, isRead, complete, ?_⟩
  rw [← listPayloads_eq_ok listed]
  split at done
  · cases done
  · simp only [bind_eq_ok] at done
    obtain ⟨-, -, done⟩ := done
    exact (Except.ok.inj done).symm

/-- An answer is the content of the tables after its transaction. -/
theorem AuthorityHandler.processSnapshot_eq_ok {request : SnapshotRequest} {d : Discovery}
    (done : (h.processSnapshot prim json request clock d).1 = .ok response) :
    response = content json (Discovery.effect (h.readCommand (clock 1)) d) h.scope.string := by
  unfold processSnapshot at done
  split at done
  · cases done
  obtain ⟨read, isRead, complete, rfl⟩ := answer_eq_ok done
  obtain ⟨after, committed⟩ := Discovery.outcome_eq_ok isRead
  obtain ⟨generation, highWater, records⟩ :=
    Discovery.authoritySnapshot_reads committed
  rw [Discovery.effect_of_ok committed, content, ← generation, ← highWater, ← records complete]

theorem content_same {d after : Discovery} {scope : GoString}
    (same : Discovery.SameVersion scope d after) :
    content json after scope = content json d scope := by
  unfold content Discovery.ownedRecords
  rw [same.1, same.2]

variable {start : Discovery} {calls : List DiscoveryCommand}

theorem Responds.content {k : ℕ} (responds : Responds prim json h start calls k response) :
    response = Tubo.content json (stateAt Discovery.effect start calls (k + 1)) h.scope.string := by
  obtain ⟨request, clock, found, done⟩ := responds
  rw [stateAt_succ found]
  exact AuthorityHandler.processSnapshot_eq_ok done

/-- Answers with one generation are the same. -/
theorem Responds.same (counted : ∀ c ∈ calls, Discovery.bypasses h.scope.string c = false)
    {i j : ℕ} {response' : SnapshotResponse} (first : Responds prim json h start calls i response)
    (second : Responds prim json h start calls j response')
    (sameGeneration : response.generation = response'.generation) : response = response' := by
  wlog le : i ≤ j generalizing i j response response'
  · exact (this second first sameGeneration.symm (Nat.le_of_not_le le)).symm
  have versions := Discovery.stateAt_versions start counted (Nat.succ_le_succ le)
  rw [first.content, second.content] at sameGeneration ⊢
  exact (content_same (versions.same sameGeneration)).symm

end Content

/-! ## What the client makes of it -/

/-- The record that a client stores for a payload. -/
def receivedRecord (scope : GoString) (raw : Bytes) : Option Record :=
  match PipeRecord.parse json raw with
  | .error _ => none
  | .ok record =>
    match record.marshal json with
    | .error _ => none
    | .ok data =>
      some ⟨scope, record.pipeID, record.displayName, data, record.expiresAt, record.sequence, true⟩

/-- The snapshot that a client offers to its store for an answer. -/
def clientSnapshot (scope : GoString) (response : SnapshotResponse) : AuthoritativeSnapshot :=
  let records := response.records.filterMap (receivedRecord json scope)
  ⟨snapshotSourcePinnedAuthority, true, response.generation, response.highWater,
    snapshotDigest prim records, records⟩

/-- `Received h start calls snapshot`: a client made the snapshot of an answer of
the authority, with any pinned key and at any time. -/
def Received (h : AuthorityHandler) (start : Discovery)
    (calls : List DiscoveryCommand) (snapshot : AuthoritativeSnapshot) : Prop :=
  ∃ k response key expected now, Responds prim json h start calls k response ∧
    receivedSnapshot prim json h.scope.string key expected response now = .ok snapshot

section Client

variable {prim json}

variable {scope : GoString} {key : Bytes} {expected : Scope} {now : Time}
  {response : SnapshotResponse}

theorem receivedRecords_eq_ok {seen : List GoString} {raws : List Bytes}
    {records : List Record} (done : receivedRecords prim json scope key expected now seen raws =
      .ok records) :
    records = raws.filterMap (receivedRecord json scope) := by
  induction raws generalizing seen records with
  | nil =>
    cases done
    rfl
  | cons raw rest ih =>
    rw [receivedRecords] at done
    simp only [bind_eq_ok, errorf_eq_ok] at done
    obtain ⟨record, parsed, -, -, -, -, data, marshalled, records', received, done⟩ := done
    cases done
    grind [receivedRecord]

theorem receivedSnapshot_eq_ok {snapshot : AuthoritativeSnapshot}
    (done : receivedSnapshot prim json scope key expected response now = .ok snapshot) :
    snapshot = clientSnapshot prim json scope response := by
  unfold receivedSnapshot at done
  simp only [bind_eq_ok] at done
  obtain ⟨-, -, records, received, done⟩ := done
  rw [clientSnapshot, ← receivedRecords_eq_ok received]
  exact (Except.ok.inj done).symm

variable {h : AuthorityHandler} {start : Discovery}
  {calls : List DiscoveryCommand}

/-- Snapshots with one generation are the same. -/
theorem Received.same (counted : ∀ c ∈ calls, Discovery.bypasses h.scope.string c = false)
    {snapshot snapshot' : AuthoritativeSnapshot} (first : Received prim json h start calls snapshot)
    (second : Received prim json h start calls snapshot')
    (sameGeneration : snapshot.generation = snapshot'.generation) : snapshot = snapshot' := by
  obtain ⟨i, response, _, _, _, responds, received⟩ := first
  obtain ⟨j, response', _, _, _, responds', received'⟩ := second
  rw [receivedSnapshot_eq_ok received, receivedSnapshot_eq_ok received'] at sameGeneration ⊢
  rw [responds.same counted responds' sameGeneration]

/-- An error of the client's own checks. -/
def ReceiveError (error : GoError) : Prop :=
  error ∈ [errorsNew "invalid authoritative snapshot metadata",
      errorsNew "invalid authoritative snapshot duplicate pipe_id"] ∨
    ∃ cause, error = .wrap (str "invalid discovered record: ") cause []

theorem receivedRecords_eq_error {seen : List GoString} {raws : List Bytes} {error : GoError}
    (failed : receivedRecords prim json scope key expected now seen raws =
      .error error) : ReceiveError error := by
  induction raws generalizing seen with
  | nil => cases failed
  | cons raw rest ih =>
    rw [receivedRecords] at failed
    simp only [bind_eq_error, errorf_eq_error, failIf_eq_error] at failed
    obtain ⟨cause, -, rfl⟩ | ⟨record, -, ⟨cause, -, rfl⟩ | ⟨-, -, ⟨-, rfl⟩ |
      ⟨-, -, ⟨cause, -, rfl⟩ | ⟨data, -, rest | ⟨_, -, impossible⟩⟩⟩⟩⟩ := failed
    · exact .inr ⟨cause, rfl⟩
    · exact .inr ⟨cause, rfl⟩
    · exact .inl (by simp)
    · exact .inr ⟨cause, rfl⟩
    · exact ih rest
    · cases impossible

/-- The client's own checks fail, or the store of the client refuses. -/
theorem reconcileAuthorityResponse_eq_error {later : Time}
    {lease : Option ScopeSyncLease} {d : Discovery} {error : GoError}
    (ownLease : ∀ held, lease = some held → held.scope = scope)
    (failed : (reconcileAuthorityResponse prim json scope key expected response
      now later lease d).1 = .error error) :
    ReceiveError error ∨ ∃ snapshot, receivedSnapshot prim json scope key expected response now =
        .ok snapshot ∧
      d.reconcileAuthoritativeSnapshot scope snapshot lease later = .error error := by
  unfold reconcileAuthorityResponse at failed
  split at failed
  · rename_i error' notReceived
    cases failed
    unfold receivedSnapshot at notReceived
    simp only [bind_eq_error, failIf_eq_error] at notReceived
    obtain ⟨-, rfl⟩ | ⟨-, -, failed | ⟨_, -, impossible⟩⟩ := notReceived
    · exact .inl (.inl (by simp))
    · exact .inl (receivedRecords_eq_error failed)
    · cases impossible
  · rename_i snapshot received
    refine .inr ⟨snapshot, received, ?_⟩
    have refused {transaction : Except GoError Discovery}
        (failed : ((transaction.map ((), ·)).map Prod.fst).map (fun _ => ()) =
          .error error) : transaction = .error error := by
      cases transaction with
      | error error' =>
        cases failed
        rfl
      | ok after => cases failed
    cases lease with
    | none => exact refused failed
    | some held =>
      obtain rfl := ownLease held rfl
      exact refused failed

/-- No answer is ambiguous for a client whose accepted snapshot came from the
authority. -/
theorem reconcileAuthorityResponse_unambiguous
    (counted : ∀ c ∈ calls, Discovery.bypasses h.scope.string c = false)
    {d : Discovery} (accepted : Discovery.AcceptedFrom
      (Received prim json h start calls) (d.freshness h.scope.string))
    {k : ℕ} (responds : Responds prim json h start calls k response)
    (key : Bytes) (expected : Scope) (now later : Time) (lease : Option ScopeSyncLease)
    (ownLease : ∀ held, lease = some held → held.scope = h.scope.string) :
    (reconcileAuthorityResponse prim json h.scope.string key expected response
      now later lease d).1 ≠ .error errAuthoritativeSnapshotAmbiguous := by
  intro failed
  rcases reconcileAuthorityResponse_eq_error ownLease failed with
    (own | ⟨_, own⟩) | ⟨snapshot, received, refused⟩
  · exact absurd own (by decide)
  · cases own
  have isReceived : Received prim json h start calls snapshot :=
    ⟨k, response, key, expected, now, responds, received⟩
  rcases Discovery.reconcile_eq_error refused with
    other | order | ⟨-, _, -, -, _, -, -, obstructs⟩
  · exact absurd other (by decide)
  · rcases Discovery.checkSnapshotOrder_eq_error order with
      rollback | ⟨-, generation, present, different⟩
    · exact absurd rollback (by decide)
    rcases accepted with empty | ⟨other, fromAuthority, generation', highWater, digest⟩
    · exact present empty
    grind [Received.same]
  · cases obstructs

end Client

/-- **A generation names one content.**  Over every run on the store of an
authority in which records of its Scope are written with the counters: two answers
with one generation have one high-water mark and the same records; a client that
has accepted snapshots of this authority only rejects no answer as ambiguous; every
change of the authority's records makes both counters greater; and the counters
never decrease nor leave their columns. -/
theorem generation_names_content (h : AuthorityHandler) (start : Discovery)
    (calls : List DiscoveryCommand)
    (counted : ∀ c ∈ calls, Discovery.bypasses h.scope.string c = false)
    (fits : (start.counters h.scope.string).Fits) :
    (∀ i j response response', Responds prim json h start calls i response →
      Responds prim json h start calls j response' →
      response.generation = response'.generation →
      response.highWater = response'.highWater ∧ response.records = response'.records) ∧
    (∀ clientStart clientCalls,
      (Discovery.freshness clientStart h.scope.string).snapshotDigest = [] →
      (∀ c ∈ clientCalls, ∀ snapshot now,
        Discovery.offered c = some (h.scope.string, snapshot, now) →
        Received prim json h start calls snapshot) →
      ∀ k i response key expected now later lease, Responds prim json h start calls i response →
        (∀ held, lease = some held → held.scope = h.scope.string) →
        (reconcileAuthorityResponse prim json h.scope.string key expected response now later lease
          (stateAt Discovery.effect clientStart clientCalls k)).1 ≠
            .error errAuthoritativeSnapshotAmbiguous) ∧
    ∀ i j, i ≤ j → ((stateAt Discovery.effect start calls i).owned h.scope.string ≠
          (stateAt Discovery.effect start calls j).owned h.scope.string →
        Discovery.Newer h.scope.string (stateAt Discovery.effect start calls i)
          (stateAt Discovery.effect start calls j)) ∧
      ((stateAt Discovery.effect start calls i).counters h.scope.string).generation ≤
        ((stateAt Discovery.effect start calls j).counters h.scope.string).generation ∧
      ((stateAt Discovery.effect start calls i).counters h.scope.string).highWater ≤
        ((stateAt Discovery.effect start calls j).counters h.scope.string).highWater ∧
      ((stateAt Discovery.effect start calls j).counters h.scope.string).Fits := by
  refine ⟨?_, ?_, ?_⟩
  · intro i j response response' first second sameGeneration
    grind [Responds.same]
  · intro clientStart clientCalls empty offers k i response key expected now later
      lease responds ownLease
    exact reconcileAuthorityResponse_unambiguous counted
      (Discovery.stateAt_acceptedFrom (.inl empty) offers k) responds key expected
      now later lease ownLease
  · intro i j le
    have versions := Discovery.stateAt_versions start counted le
    refine ⟨fun different => ?_, versions.le.1, versions.le.2, ?_⟩
    · exact versions.moves.resolve_left fun same => different same.1.symm
    · exact (Discovery.stateAt_versions start counted (Nat.zero_le j)).fits fits

/-! A run with two answers: signatures are not checked, and the JSON of a record is
its sequence number. -/

namespace Sample

def key : Bytes := List.replicate 32 0

def unchecked : Primitives where
  publicKey _ := key
  sign _ _ := []
  verify _ _ _ := true
  sha256 _ := key
  leaseBody _ := .ok []
  bindingBody _ := .ok []
  inviteBody _ := .ok []
  marshalLease _ := .ok []
  marshalBinding _ := .ok []
  marshalInvite _ := .ok []
  unmarshalLease _ := .error (errorsNew "lease")
  unmarshalBinding _ := .error (errorsNew "binding")
  unmarshalInvite _ := .error (errorsNew "invite")

def scope : Scope := ⟨str "c", str "n"⟩

def pipeID : GoString := pipeIDFromOwner unchecked key

def token (type audience role : GoString) : Token :=
  { version := 2, type, issuer := rawURLEncode key, subject := str "s", audience,
    scope, role, jti := str "j", issuedAt := ⟨second, 0⟩,
    expiresAt := ⟨100 * second, 0⟩, authorityAddress := [], namespaceKey := [],
    oneTime := false, pipeEndpoint := none, displayNameHint := [],
    accessEpoch := 1, publishEpoch := 1, signature := rawURLEncode (key ++ key) }

def pipeRecord (sequence : ℕ) : PipeRecord :=
  { version := 2, pipeID, displayName := str "web",
    ownerPublicKey := rawURLEncode key, runtimePeerID := str "peer", scope,
    protocol := str "p", capabilities := [], addresses := [str "a"],
    visibility := .discoverable, access := .members, publishGrant := [],
    issuedAt := ⟨second, 0⟩, expiresAt := ⟨10 * second, 0⟩, sequence,
    signature := [] }

def sequenceJSON : RecordJSON where
  tokenBody _ := .ok []
  unmarshalToken
    | [] => .ok (token (str "pipe.publish") pipeID [])
    | _ => .ok (token (str "membership.invite") [] (str "member"))
  recordBody _ := .ok []
  marshalRecord record := .ok [UInt8.ofNat record.sequence]
  unmarshalRecord
    | [sequence] => .ok (pipeRecord sequence.toNat)
    | _ => .error (errorsNew "record")

def handler : AuthorityHandler := ⟨scope, key, fun _ => some 0⟩

def request : SnapshotRequest :=
  ⟨rawURLEncode [1], rawURLEncode key, str "nonce", []⟩

def stored (sequence : ℕ) : Record :=
  ⟨scope.string, pipeID, str "web", [UInt8.ofNat sequence], ⟨10 * second, 0⟩, sequence, false⟩

/-- A record is announced and read twice. -/
def calls : List DiscoveryCommand :=
  [.ensureAuthoritySnapshot scope.string, .putAuthoritativeRecord (stored 1) ⟨2 * second, 0⟩,
    handler.readCommand ⟨3 * second, 0⟩, handler.readCommand ⟨4 * second, 0⟩]

theorem responds_third : Responds unchecked sequenceJSON handler {} calls 2 ⟨2, 2, [[1]]⟩ :=
  ⟨request, fun _ => ⟨3 * second, 0⟩, rfl, by decide +kernel⟩

theorem responds_fourth : Responds unchecked sequenceJSON handler {} calls 3 ⟨2, 2, [[1]]⟩ :=
  ⟨request, fun _ => ⟨4 * second, 0⟩, rfl, by decide +kernel⟩

end Sample

theorem generation_names_content_sample : Discovery.Newer Sample.scope.string
        (stateAt Discovery.effect {} Sample.calls 1)
        (stateAt Discovery.effect {} Sample.calls 2) ∧
      ∃ response, Responds Sample.unchecked Sample.sequenceJSON Sample.handler {}
        Sample.calls 3 response ∧ response.records = [[1]] := by
  obtain ⟨same, -, versions⟩ := generation_names_content Sample.unchecked
    Sample.sequenceJSON Sample.handler {} Sample.calls (by decide +kernel)
    ⟨by decide +kernel, by decide +kernel⟩
  refine ⟨(versions 1 2 (by decide)).1 (by decide +kernel), _, Sample.responds_fourth, ?_⟩
  exact (same 3 2 _ _ Sample.responds_fourth Sample.responds_third rfl).2

end Tubo
