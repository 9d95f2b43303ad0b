import Tubo.Runtime.Shares

/-!
# Publication of records

Package `internal/runtime`, file `pipe.go`: the part of `runPublishedPipe` that
publishes the record of a Pipe.  The publisher checks its grant when it starts, and
then renews the grant on its last day and signs a new record at every maintenance of
its relay reservation.  On the machine of the authority the record goes straight into
the table; elsewhere it is announced to the authority.

Neither `records.announce` nor the publisher looks at the epoch of a grant after the
start.

* `publication_refused_iff` — what the publication of a record with a revoked grant
  depends on.
* `revoked_grant_published` — records with a grant of epoch 0 are accepted at epoch 1.
-/

namespace Tubo

open Concurrency

variable (prim : Primitives) (json : AuthorityJSON)

/-! ## Surroundings -/

/-- `UnixNano` as a `uint64`. -/
def Time.unixNano (t : Time) : ℕ :=
  ((t.instant - 62135596800 * second) % uint64Size).toNat

/-- `PipeRecord.Sign`. -/
def PipeRecord.sign (secret : Bytes) (r : PipeRecord) : Except GoError PipeRecord := do
  let named := { r with ownerPublicKey := rawURLEncode (prim.publicKey secret) }
  let message ← json.recordBody named
  return { named with signature := rawURLEncode (prim.sign secret message) }

/-- `Scope`. -/
def Store.scope (s : Store) (name : GoString) : Except GoError ScopeRow :=
  match s.scopes.lookup name with
  | some row => .ok row
  | none => .error (.wrap [] errNotFound (str ": scope " ++ name))

/-- `SetPipePublishGrant`. -/
def Store.setPipePublishGrant (s : Store) (ref publishGrant : GoString) :
    Except GoError Unit × Store :=
  match s.pipes.lookup ref with
  | some row =>
    (.ok (), { s with pipes := s.pipes.replace ref { row with publishGrant } })
  | none => (.error (.wrap [] errNotFound (str ": " ++ ref)), s)

/-- `RecordSequence`. -/
def Discovery.recordSequence (d : Discovery) (scope pipeID : GoString) : ℕ :=
  match d.records.lookup ⟨scope, pipeID⟩ with
  | some row => row.sequence
  | none => 0

/-- One access of a publisher to its database, to a key file, or to the authority of
a Scope on another machine. -/
inductive PublishCommand
  | tables (c : AuthorityCommand)
  | scope (name : GoString)
  | recordSequence (scope pipeID : GoString)
  | setPipePublishGrant (ref publishGrant : GoString)
  | readPrivate (path : GoString)
  | requestPublishGrant (scope pipeID : GoString)
  | announceRecord (record : PipeRecord)

@[reducible]
def PublishCommand.Response : PublishCommand → Type
  | .tables c => c.Response
  | .scope _ => Except GoError ScopeRow
  | .recordSequence .. => Except GoError ℕ
  | .setPipePublishGrant .. | .announceRecord _ => Except GoError Unit
  | .readPrivate _ => Except GoError Bytes
  | .requestPublishGrant .. => Except GoError GoString

/-- What lies outside the database: key files and other authorities. -/
structure Outside where
  readPrivate : GoString → Except GoError Bytes
  requestPublishGrant : GoString → GoString → Except GoError GoString
  announceRecord : PipeRecord → Except GoError Unit

/-- The effect of a command. -/
def AuthorityTables.executePublish (o : Outside) : (c : PublishCommand) →
    AuthorityTables → c.Response × AuthorityTables
  | .tables c, s => s.execute c
  | .scope name, s => (s.store.scope name, s)
  | .recordSequence scope pipeID, s =>
    (.ok (s.discovery.recordSequence scope pipeID), s)
  | .setPipePublishGrant ref publishGrant, s =>
    let updated := s.store.setPipePublishGrant ref publishGrant
    (updated.1, { s with store := updated.2 })
  | .readPrivate path, s => (o.readPrivate path, s)
  | .requestPublishGrant scope pipeID, s => (o.requestPublishGrant scope pipeID, s)
  | .announceRecord record, s => (o.announceRecord record, s)

abbrev PublishProgram (α : Type) :=
  Program PublishCommand PublishCommand.Response (Except GoError α)

/-! ## The publisher -/

/-- The node of a published Pipe. -/
structure PublisherHost where
  peerID : GoString
  address : GoString
  deriving DecidableEq, Repr

/-- What `runPublishedPipe` has read before it publishes. -/
structure Publisher where
  spec : PipeSpec
  scope : Scope
  host : PublisherHost
  owner : Bytes
  /-- `none` for a `remotePublisher`. -/
  localScope : Option ScopeRow
  authorityPublic : Bytes
  deriving DecidableEq, Repr

/-- The variables of the loop. -/
structure Publication where
  publishGrant : GoString
  grant : Token
  sequence : ℕ
  deriving DecidableEq, Repr

/-- `RevocationEpoch` for the publication of a Pipe. -/
def publishEpochOf (scope : Scope) (pipeID : GoString) : PublishCommand :=
  .tables (.store (.revocationEpoch scope.string pipePublish pipeID))

/-- The checks of a publisher on a grant. -/
def checkGrant (authorityPublic : Bytes) (scope : Scope) (pipeID encoded : GoString)
    (now : Time) (complaint : String) : Except GoError Token :=
  match decodeToken json.toRecordJSON encoded with
  | .error _ => .error (errorsNew complaint)
  | .ok grant =>
    match grant.verify prim json.toRecordJSON authorityPublic now with
    | .error _ => .error (errorsNew complaint)
    | .ok () => do
        failIf (grant.type ≠ str "pipe.publish" ∨ grant.audience ≠ pipeID ∨
          grant.scope ≠ scope) (errorsNew complaint)
        return grant

namespace Publisher

variable (p : Publisher)

/-- A new grant from the key of the own Scope. -/
def localGrant (row : ScopeRow) (e : ServerInput) : PublishProgram GoString :=
  .call (.readPrivate row.authorityKeyFile) fun
    | .error error => .done (.error error)
    | .ok (secret : Bytes) =>
      Program.andThen (.done (newToken "pipe.publish" p.scope
          (rawURLEncode (prim.publicKey p.owner)) p.spec.pipeID
          (30 * 24 * 60 * minute) (e.random 0) (e.clock 1))) fun fresh =>
        .call (publishEpochOf p.scope p.spec.pipeID) fun
          | .error error => .done (.error error)
          | .ok (publishEpoch : ℕ) => .done do
              let signed ← Token.sign prim json secret { fresh with publishEpoch }
              encodeToken json signed

/-- A new grant. -/
def freshGrant (e : ServerInput) : PublishProgram GoString :=
  match p.localScope with
  | none => .call (.requestPublishGrant p.scope.string p.spec.pipeID) .done
  | some row => p.localGrant prim json row e

/-- The grant lasts for another day. -/
def lasts (grant : Token) (now : Time) : Bool :=
  grant.expiresAt.after (now.add (24 * 60 * minute))

/-- `refreshGrant`. -/
def refreshGrant (v : Publication) (e : ServerInput) : PublishProgram Publication :=
  if lasts v.grant (e.clock 0) then .done (.ok v)
  else
    (p.freshGrant prim json e).andThen fun publishGrant =>
      Program.andThen (.done (checkGrant prim json p.authorityPublic p.scope
          p.spec.pipeID publishGrant (e.clock 0)
          "authorization_denied: invalid refreshed publish grant")) fun grant =>
        .call (.setPipePublishGrant p.spec.ref.string publishGrant) fun
          | .error error => .done (.error error)
          | .ok _ => .done (.ok { v with publishGrant, grant })

/-- The expiry of a record: an hour, but not beyond the grant. -/
def recordExpiry (grant : Token) (now : Time) : Time :=
  let expires := now.add (60 * minute)
  if expires.after grant.expiresAt then grant.expiresAt else expires

/-- The sequence number after another one. -/
def nextSequence (sequence : ℕ) (now : Time) : ℕ :=
  if now.unixNano ≤ sequence then (sequence + 1) % uint64Size else now.unixNano

/-- The signed record of `publish`. -/
def record (v : Publication) (now : Time) : Except GoError PipeRecord := do
  let expiresAt := recordExpiry v.grant now
  failIf (expiresAt.after now = false) (errorsNew "authorization_denied: publish grant expired")
  PipeRecord.sign prim json p.owner
    { version := 2, pipeID := p.spec.pipeID, displayName := p.spec.ref.name,
      ownerPublicKey := [], runtimePeerID := p.host.peerID, scope := p.scope,
      protocol := str "/tubo/tunnel/2.0",
      capabilities := [str "raw-duplex", str "half-close"],
      addresses := [p.host.address], visibility := p.spec.visibility,
      access := p.spec.access, publishGrant := v.publishGrant, issuedAt := now,
      expiresAt, sequence := nextSequence v.sequence now, signature := [] }

/-- The signed record of `publish` and its row. -/
def signed (v : Publication) (now : Time) : Except GoError (PipeRecord × Record) := do
  let record ← p.record prim json v now
  let stored ← record.stored json.toRecordJSON p.scope
  return (record, stored)

/-- `publish`; the result is the record. -/
def publish (v : Publication) (now later : Time) : PublishProgram PipeRecord :=
  Program.andThen (.done (p.signed prim json v now)) fun (record, stored) =>
    match p.localScope with
    | some _ =>
      .call (.tables (.discovery (.putAuthoritativeRecord stored later))) fun
        | .error error => .done (.error error)
        | .ok _ => .done (.ok record)
    | none =>
      .call (.tables (.discovery (.putRecord stored later))) fun
        | .error error => .done (.error error)
        | .ok _ => .call (.announceRecord record) fun
            | .error error => .done (.error error)
            | .ok _ => .done (.ok record)

/-- One iteration of the loop, with the variables that it leaves: a grant that was
refreshed is kept, also if the record is not published. -/
def iterate (v : Publication) (e : ServerInput) : Program PublishCommand PublishCommand.Response
      (Publication × Except GoError PipeRecord) :=
  (p.refreshGrant prim json v e).bind fun
    | .error error => .done (v, .error error)
    | .ok w => (p.publish prim json w (e.clock 0) (e.clock 2)).bind fun
        | .error error => .done (w, .error error)
        | .ok record => .done ({ w with sequence := record.sequence }, .ok record)

end Publisher

/-! ## The start -/

/-- `AuthorityPublicForScope`. -/
def authorityPublicForScope (scope : GoString) : PublishProgram Bytes :=
  .call (.scope scope) fun
    | .ok (row : ScopeRow) => .done (authorityPublicFromString row.authorityPublic)
    | .error _ => .call (.tables (.store (.membership scope))) fun
        | .error error => .done (.error error)
        | .ok (row : Membership) => .done (authorityPublicFromString row.authorityPublic)

/-- The Scope of a publisher, or `none` if its authority is on another machine. -/
def localScopeOf (scope : GoString) : PublishProgram (Option ScopeRow) :=
  .call (.scope scope) fun
    | .ok (row : ScopeRow) => .done (.ok (some row))
    | .error error =>
      if error.is errNotFound then
        .call (.tables (.store (.membership scope))) fun
          | .error error => .done (.error error)
          | .ok _ => .done (.ok none)
      else .done (.error error)

/-- The grant that the publisher starts with, which is not revoked. -/
def startGrant (authorityPublic : Bytes) (scope : Scope) (pipeID publishGrant : GoString)
    (now : Time) : PublishProgram Token :=
  Program.andThen (.done (checkGrant prim json authorityPublic scope pipeID
      publishGrant now "authorization_denied: invalid publish grant")) fun grant =>
    .call (publishEpochOf scope pipeID) fun
      | .error error =>
        .done (.error (.wrap (str "persistence_failed: publish epoch: ") error []))
      | .ok (publishEpoch : ℕ) => .done do
          failIf (grant.publishEpoch < publishEpoch)
            (errorsNew "authorization_denied: publish epoch revoked")
          return grant

/-- `runPublishedPipe` up to the first record. -/
def startPublisher (spec : PipeSpec) (scope : Scope)
    (ownerKeyFile publishGrant : GoString) (host : Except GoError PublisherHost)
    (clock : ℕ → Time) : PublishProgram (Publisher × Publication × PipeRecord) :=
  Program.andThen (.done host) fun host =>
    Program.andThen (.call (.readPrivate ownerKeyFile) .done) fun owner =>
      (localScopeOf scope.string).andThen fun localScope =>
        (authorityPublicForScope scope.string).andThen fun authorityPublic =>
          (startGrant prim json authorityPublic scope spec.pipeID publishGrant
              (clock 0)).andThen fun grant =>
            Program.andThen (.call (.recordSequence scope.string spec.pipeID) .done) fun sequence =>
                let p : Publisher :=
                  ⟨spec, scope, host, owner, localScope, authorityPublic⟩
                let v : Publication := ⟨publishGrant, grant, sequence⟩
                (p.publish prim json v (clock 1) (clock 2)).andThen fun record =>
                  .done (.ok (p, { v with sequence := record.sequence }, record))

/-- `RunPipe` for a Pipe that is published in a Scope; another Pipe has no
publisher. -/
def runPipe (identifier : GoString) (host : Except GoError PublisherHost) (clock : ℕ → Time) :
    PublishProgram (Option (Publisher × Publication × PipeRecord)) :=
  .call (.tables (.store (.pipe identifier))) fun
    | .error error => .done (.error error)
    | .ok (row : PipeRow) =>
      match row.spec.ingress.kind, row.spec.scope with
      | .tubo, some scope =>
        (startPublisher prim json row.spec scope row.ownerKeyFile row.publishGrant
          host clock).andThen fun started => .done (.ok (some started))
      | _, _ => .done (.ok none)

/-! ## Histories -/

variable (h : ScopeAuthority)

/-- A call at the authority; the start of a publisher on its machine, an iteration of
its loop, or its end. -/
inductive PublicationCall
  | authority (call : AuthorityCall)
  | start (identifier : GoString) (host : Except GoError PublisherHost)
      (clock : ℕ → Time) (o : Outside)
  | iterate (identifier : GoString) (e : ServerInput) (o : Outside)
  | stop (identifier : GoString)

/-- The tables, and the publishers that run on the machine of the authority. -/
structure PublicationState where
  tables : AuthorityTables := {}
  publishers : GoString → Option (Publisher × Publication) := fun _ => none

/-- The state after a call. -/
def PublicationCall.effect : PublicationCall → PublicationState → PublicationState
  | .authority call, s => { s with tables := call.effect prim json h s.tables }
  | .start identifier host clock o, s =>
    match (runPipe prim json identifier host clock).run
        (AuthorityTables.executePublish o) s.tables with
    | (.ok (some (p, v, _)), tables) =>
      ⟨tables, Function.update s.publishers identifier (some (p, v))⟩
    | (_, tables) => { s with tables }
  | .iterate identifier e o, s =>
    match s.publishers identifier with
    | none => s
    | some (p, v) =>
      let ran := (p.iterate prim json v e).run (AuthorityTables.executePublish o) s.tables
      ⟨ran.2, Function.update s.publishers identifier (some (p, ran.1.1))⟩
  | .stop identifier, s =>
    { s with publishers := Function.update s.publishers identifier none }

/-- The record of a publisher that is not remote. -/
def Publisher.ownRecord (p : Publisher) (record : PipeRecord) : Option PipeRecord :=
  if p.localScope.isSome then some record else none

/-- The record that a call makes authoritative: one that `records.announce` accepts,
or one of a publisher on the machine of the authority. -/
def PublicationCall.published : PublicationCall → PublicationState → Option PipeRecord
  | .authority (.serve request e), s =>
    if request.operation = str "records.announce" then
      match (AuthorityCall.serve request e).outcome prim json h s.tables,
        PipeRecord.parse json.toRecordJSON request.record with
      | .ok _, .ok record => some record
      | _, _ => none
    else none
  | .authority (.revoke ..), _ | .stop _, _ => none
  | .start identifier host clock o, s =>
    match ((runPipe prim json identifier host clock).run
        (AuthorityTables.executePublish o) s.tables).1 with
    | .ok (some (p, _, record)) => p.ownRecord record
    | _ => none
  | .iterate identifier e o, s =>
    match s.publishers identifier with
    | none => none
    | some (p, v) =>
      match ((p.iterate prim json v e).run (AuthorityTables.executePublish o) s.tables).1.2 with
      | .ok record => p.ownRecord record
      | .error _ => none

/-! ## What a publication depends on -/

/-- What the acceptance of an announced record with a grant depends on. -/
structure Announceable (s : AuthorityTables) (request : AuthorityRequest)
    (e : ServerInput) (publishGrant : GoString) : Prop where
  operation : request.operation = str "records.announce"
  publisher : ∃ invite, h.presentedToken prim json request (e.clock 0) = .ok invite ∧
    ScopeAuthority.requirePublisher invite
      "authorization_denied: role cannot announce records" = .ok ()
  carries : ∃ record, PipeRecord.parse json.toRecordJSON request.record = .ok record ∧
    record.publishGrant = publishGrant
  stored : ∃ v, h.announce prim json.toRecordJSON request.record request.pipeID
      request.clientPublic (e.clock 1) = .ok v ∧
    s.discovery.outcome (.putAuthoritativeRecord v (e.clock 2)) = .ok ()

/-- What an iteration of a publisher with a grant depends on. -/
structure Republishes (s : AuthorityTables) (p : Publisher) (v : Publication)
    (e : ServerInput) (o : Outside) (publishGrant : GoString) : Prop where
  isLocal : p.localScope.isSome
  carries : ∃ w after, (p.refreshGrant prim json v e).run
      (AuthorityTables.executePublish o) s = (.ok w, after) ∧
    w.publishGrant = publishGrant ∧
    ∃ record stored, p.signed prim json w (e.clock 0) = .ok (record, stored) ∧
      after.discovery.outcome (.putAuthoritativeRecord stored (e.clock 2)) = .ok ()

/-- What a call with a grant depends on; the start of a publisher looks at the
epoch. -/
def PublicationCall.Publishable (call : PublicationCall) (s : PublicationState)
    (publishGrant : GoString) : Prop :=
  match call with
  | .authority (.serve request e) =>
    Announceable prim json h s.tables request e publishGrant
  | .iterate identifier e o =>
    ∃ p v, s.publishers identifier = some (p, v) ∧
      Republishes prim json s.tables p v e o publishGrant
  | _ => False

variable {prim json h}

section Parts

variable {s after : AuthorityTables} {o : Outside} {p : Publisher}

variable {e : ServerInput} {v : Publication} {now : Time} {record : PipeRecord} {scope : Scope}

variable {request : AuthorityRequest} {invite grant : Token} {authorityPublic : Bytes}
  {pipeID publishGrant : GoString} {host : Except GoError PublisherHost} {clock : ℕ → Time}

theorem ScopeAuthority.dispatch_announce (isAnnounce : request.operation = str "records.announce") :
    h.dispatch prim json request invite e = h.announceRecord prim json request invite e := by
  unfold ScopeAuthority.dispatch
  rw [isAnnounce]
  rfl

/-- **One announcement.** -/
theorem ScopeAuthority.announceRecord_run :
    (∃ reply after, (h.announceRecord prim json request invite e).run
        AuthorityTables.execute s = (.ok reply, after)) ↔
      ScopeAuthority.requirePublisher invite
          "authorization_denied: role cannot announce records" = .ok () ∧
        ∃ v, h.announce prim json.toRecordJSON request.record request.pipeID
            request.clientPublic (e.clock 1) = .ok v ∧
          s.discovery.outcome (.putAuthoritativeRecord v (e.clock 2)) = .ok () := by
  unfold ScopeAuthority.announceRecord
  simp only [Program.run_andThen_eq_ok, Program.run_done_eq_ok, bind_eq_ok]
  constructor
  · rintro ⟨reply, after, v, middle, ⟨⟨⟨⟩, isPublisher, announced⟩, same⟩, ran⟩
    refine ⟨isPublisher, v, announced, ?_⟩
    rw [same, Program.run_call] at ran
    cases put : Discovery.outcome (.putAuthoritativeRecord v (e.clock 2)) s.discovery with
    | error error => simp [AuthorityTables.execute, put] at ran
    | ok _ => rfl
  · rintro ⟨isPublisher, v, announced, put⟩
    refine ⟨{}, (s.execute (.discovery (.putAuthoritativeRecord v (e.clock 2)))).2, v, s,
      ⟨⟨(), isPublisher, announced⟩, rfl⟩, ?_⟩
    rw [Program.run_call]
    simp only [AuthorityTables.execute, put]
    rfl

theorem Publisher.signed_publishGrant {stored : Record}
    (done : p.signed prim json v now = .ok (record, stored)) :
    record.publishGrant = v.publishGrant := by
  unfold Publisher.signed Publisher.record PipeRecord.sign at done
  simp only [bind_eq_ok] at done
  obtain ⟨_, ⟨_, -, _, -, signed⟩, _, -, done⟩ := done
  cases signed
  cases done
  rfl

/-- `publish` on the machine of the authority. -/
theorem Publisher.publish_run {later : Time} (isLocal : p.localScope.isSome) :
    (∃ after, (p.publish prim json v now later).run (AuthorityTables.executePublish o) s =
        (.ok record, after)) ↔
      ∃ stored, p.signed prim json v now = .ok (record, stored) ∧
        s.discovery.outcome (.putAuthoritativeRecord stored later) = .ok () := by
  obtain ⟨row, isRow⟩ := Option.isSome_iff_exists.mp isLocal
  unfold Publisher.publish
  simp only [Program.run_andThen_eq_ok, Program.run_done_eq_ok, isRow]
  constructor
  · rintro ⟨after, ⟨other, stored⟩, middle, ⟨signed, same⟩, ran⟩
    rw [same, Program.run_call] at ran
    cases put : Discovery.outcome (.putAuthoritativeRecord stored later) s.discovery with
    | error error =>
      simp [AuthorityTables.executePublish, AuthorityTables.execute, put] at ran
    | ok _ =>
      simp only [AuthorityTables.executePublish, AuthorityTables.execute, put] at ran
      cases ran
      exact ⟨stored, signed, put⟩
  · rintro ⟨stored, signed, put⟩
    refine ⟨(s.execute (.discovery (.putAuthoritativeRecord stored later))).2,
      (record, stored), s, ⟨signed, rfl⟩, ?_⟩
    rw [Program.run_call]
    simp only [AuthorityTables.executePublish, AuthorityTables.execute, put]
    rfl

theorem Publisher.iterate_run :
    ((p.iterate prim json v e).run (AuthorityTables.executePublish o) s).1.2 = .ok record ↔
      ∃ w middle, (p.refreshGrant prim json v e).run (AuthorityTables.executePublish o)
          s = (.ok w, middle) ∧
        ∃ after, (p.publish prim json w (e.clock 0) (e.clock 2)).run
          (AuthorityTables.executePublish o) middle = (.ok record, after) := by
  have ran : (p.iterate prim json v e).run (AuthorityTables.executePublish o) s = _ :=
    Program.run_bind (AuthorityTables.executePublish o) _ _ s
  rw [ran]
  cases refreshed : (p.refreshGrant prim json v e).run (AuthorityTables.executePublish o) s with
  | mk result middle =>
    cases result with
    | error error => simp
    | ok w =>
      show Prod.snd (Program.run (AuthorityTables.executePublish o)
        (p.publish prim json w (e.clock 0) (e.clock 2) >>= _) middle).1 = _ ↔ _
      rw [Program.run_bind]
      cases published : (p.publish prim json w (e.clock 0) (e.clock 2)).run
          (AuthorityTables.executePublish o) middle with
      | mk result after =>
        cases result with
        | error error => simp [published]
        | ok other => simp [published]

/-- The command leaves the tables alone. -/
def PublishCommand.Reads (o : Outside) (c : PublishCommand) : Prop :=
  ∀ s, (AuthorityTables.executePublish o c s).2 = s

theorem localScopeOf_reads (o : Outside) (scope : GoString) :
    (localScopeOf scope).Only (PublishCommand.Reads o) := by
  refine ⟨fun s => rfl, fun answer => ?_⟩
  rcases answer with error | row
  · show Program.Only _ (if error.is errNotFound then _ else _)
    split
    · refine ⟨fun s => rfl, fun answer => ?_⟩
      rcases answer with error | row <;> trivial
    · trivial
  · trivial

theorem authorityPublicForScope_reads (o : Outside) (scope : GoString) :
    (authorityPublicForScope scope).Only (PublishCommand.Reads o) := by
  refine ⟨fun s => rfl, fun answer => ?_⟩
  rcases answer with error | row
  · refine ⟨fun s => rfl, fun answer => ?_⟩
    rcases answer with error | row <;> trivial
  · trivial

theorem checkGrant_eq_ok {encoded : GoString} {complaint : String}
    (checked : checkGrant prim json authorityPublic scope pipeID encoded now complaint =
      .ok grant) :
    decodeToken json.toRecordJSON encoded = .ok grant ∧ grant.audience = pipeID ∧
      grant.scope = scope := by
  unfold checkGrant at checked
  split at checked
  · cases checked
  · split at checked
    · cases checked
    · simp only [bind_eq_ok, failIf_eq_ok] at checked
      obtain ⟨_, valid, same⟩ := checked
      cases same
      grind

/-- A publisher does not start with a revoked grant. -/
theorem startGrant_run
    (ran : (startGrant prim json authorityPublic scope pipeID publishGrant now).run
      (AuthorityTables.executePublish o) s = (.ok grant, after)) :
    decodeToken json.toRecordJSON publishGrant = .ok grant ∧
      s.store.revocationEpoch grant.scope.string pipePublish grant.audience ≤
        grant.publishEpoch := by
  unfold startGrant at ran
  rw [Program.run_andThen_eq_ok] at ran
  obtain ⟨checked, middle, isChecked, ran⟩ := ran
  rw [Program.run_done_eq_ok] at isChecked
  obtain ⟨isChecked, rfl⟩ := isChecked
  obtain ⟨decoded, rfl, rfl⟩ := checkGrant_eq_ok isChecked
  -- the epoch that is read is the one of the tables
  have checks : (do
      failIf (checked.publishEpoch < middle.store.revocationEpoch checked.scope.string
        pipePublish checked.audience) (errorsNew "authorization_denied: publish epoch revoked")
      return checked : Except GoError Token) = .ok grant := (Prod.mk.inj ran).1
  simp only [bind_eq_ok, failIf_eq_ok] at checks
  obtain ⟨_, unrevoked, same⟩ := checks
  cases same
  exact ⟨decoded, Nat.not_lt.mp unrevoked⟩

/-- The first record of a publisher carries its grant. -/
theorem startPublisher_run {spec : PipeSpec} {ownerKeyFile : GoString}
    (ran : (startPublisher prim json spec scope ownerKeyFile publishGrant host clock).run
      (AuthorityTables.executePublish o) s = (.ok (p, v, record), after))
    (isLocal : p.localScope.isSome) :
    ∃ grant, decodeToken json.toRecordJSON record.publishGrant = .ok grant ∧
      s.store.revocationEpoch grant.scope.string pipePublish grant.audience ≤
        grant.publishEpoch := by
  unfold startPublisher at ran
  simp only [Program.run_andThen_eq_ok, Program.run_done_eq_ok] at ran
  obtain ⟨host, set, ⟨-, isSet⟩, owner, ready, isOwner, localScope, found, isLocalScope,
    authorityPublic, pinned, isAuthority, grant, _, started, sequence, _, isSequence,
    first, _, published, result, -⟩ := ran
  -- nothing is written before the grant is checked
  have sameTables : pinned = s := by
    have kept := (authorityPublicForScope_reads o scope.string).run_state found
    have kept' := (localScopeOf_reads o scope.string).run_state ready
    rw [isAuthority] at kept
    rw [isLocalScope] at kept'
    have isReady : set = ready := (Prod.mk.inj isOwner).2
    exact kept.trans (kept'.trans (isReady.symm.trans isSet))
  rw [sameTables] at started
  cases result
  obtain ⟨stored, signed, -⟩ := (Publisher.publish_run isLocal).mp ⟨_, published⟩
  rw [Publisher.signed_publishGrant signed]
  exact ⟨grant, startGrant_run started⟩

/-- A local publisher does not start with a revoked grant. -/
theorem runPipe_run {identifier : GoString} (ran : ((runPipe prim json identifier host clock).run
      (AuthorityTables.executePublish o) s).1 = .ok (some (p, v, record)))
    (isLocal : p.localScope.isSome) :
    ∃ grant, decodeToken json.toRecordJSON record.publishGrant = .ok grant ∧
      s.store.revocationEpoch grant.scope.string pipePublish grant.audience ≤
        grant.publishEpoch := by
  unfold runPipe at ran
  rw [Program.run_call] at ran
  cases found : s.store.pipe identifier with
  | error error =>
    simp [AuthorityTables.executePublish, AuthorityTables.execute, Store.execute, found] at ran
  | ok row =>
    simp only [AuthorityTables.executePublish, AuthorityTables.execute, Store.execute, found] at ran
    split at ran
    · obtain ⟨started, middle, isStarted, result⟩ :=
        (Program.run_andThen_eq_ok _).mp (Prod.ext ran rfl)
      cases result
      exact startPublisher_run isStarted isLocal
    · cases ran

end Parts

/-! ## Every history -/

variable {s : PublicationState} {e : ServerInput} {publishGrant : GoString}

/-- **One announcement.** -/
theorem announced_iff {request : AuthorityRequest}
    :
    (∃ record, (PublicationCall.authority (.serve request e)).published prim json h s =
        some record ∧ record.publishGrant = publishGrant) ↔
      Announceable prim json h s.tables request e publishGrant := by
  simp only [PublicationCall.published]
  by_cases isAnnounce : request.operation = str "records.announce"
  · rw [if_pos isAnnounce]
    constructor
    · rintro ⟨record, isRecord, carries⟩
      split at isRecord
      · rename_i reply parsed isReply isParsed
        cases isRecord
        obtain ⟨invite, admitted, ran⟩ := AuthorityCall.outcome_serve.mp ⟨reply, isReply⟩
        rw [ScopeAuthority.dispatch_announce isAnnounce, ScopeAuthority.announceRecord_run] at ran
        exact ⟨isAnnounce, ⟨invite, admitted, ran.1⟩, ⟨record, isParsed, carries⟩, ran.2⟩
      · cases isRecord
    · rintro ⟨-, ⟨invite, admitted, isPublisher⟩, ⟨record, isParsed, carries⟩, stored⟩
      have ran := ScopeAuthority.announceRecord_run.mpr ⟨isPublisher, stored⟩
      rw [← ScopeAuthority.dispatch_announce isAnnounce] at ran
      obtain ⟨reply, isReply⟩ := AuthorityCall.outcome_serve.mpr ⟨invite, admitted, ran⟩
      grind
  · rw [if_neg isAnnounce]
    constructor
    · rintro ⟨record, isRecord, -⟩
      cases isRecord
    · intro announceable
      exact absurd announceable.operation isAnnounce

/-- **One iteration.** -/
theorem republished_iff {s : AuthorityTables} {p : Publisher} {v : Publication} {o : Outside} :
    (∃ record, (match ((p.iterate prim json v e).run (AuthorityTables.executePublish o) s).1.2 with
        | .ok record => p.ownRecord record
        | .error _ => none) = some record ∧ record.publishGrant = publishGrant) ↔
      Republishes prim json s p v e o publishGrant := by
  constructor
  · rintro ⟨record, isRecord, carries⟩
    split at isRecord
    · rename_i own ran
      unfold Publisher.ownRecord at isRecord
      split at isRecord
      · rename_i isLocal
        cases isRecord
        obtain ⟨w, middle, refreshed, published⟩ := Publisher.iterate_run.mp ran
        obtain ⟨stored, signed, put⟩ := (Publisher.publish_run isLocal).mp published
        exact ⟨isLocal, w, middle, refreshed,
          (Publisher.signed_publishGrant signed).symm.trans carries, record, stored,
          signed, put⟩
      · cases isRecord
    · cases isRecord
  · rintro ⟨isLocal, w, middle, refreshed, carries, record, stored, signed, put⟩
    have ran := Publisher.iterate_run.mpr ⟨w, middle, refreshed,
      (Publisher.publish_run isLocal).mpr ⟨stored, signed, put⟩⟩
    refine ⟨record, ?_, (Publisher.signed_publishGrant signed).trans carries⟩
    rw [ran]
    exact if_pos isLocal

theorem PublicationCall.published_iff {call : PublicationCall} {grant : Token}
    (carried : decodeToken json.toRecordJSON publishGrant = .ok grant)
    (advanced : grant.publishEpoch < s.tables.store.revocationEpoch grant.scope.string
      pipePublish grant.audience) :
    (∃ record, call.published prim json h s = some record ∧ record.publishGrant = publishGrant) ↔
      call.Publishable prim json h s publishGrant := by
  cases call with
  | authority call =>
    cases call with
    | revoke scope subjectType subjectJTI epoch now => simp [published, Publishable]
    | serve request e =>
      exact announced_iff
  | start identifier host clock o =>
    simp only [Publishable, iff_false]
    rintro ⟨record, isPublished, rfl⟩
    unfold published at isPublished
    dsimp only at isPublished
    split at isPublished
    · rename_i p v _ ran
      unfold Publisher.ownRecord at isPublished
      grind [runPipe_run]
    · cases isPublished
  | iterate identifier e o =>
    simp only [published, Publishable]
    cases running : s.publishers identifier with
    | none => simp
    | some started =>
      grind [republished_iff]
  | stop identifier => simp [published, Publishable]

namespace Sample

/-- The end of January 1970. -/
def january : Time := ⟨62135596800 * second + 30 * 24 * 60 * minute, 0⟩

/-- Every token is valid until the end of January 1970. -/
def monthJSON : AuthorityJSON :=
  { epochJSON with
    unmarshalToken := fun data => (epochJSON.unmarshalToken data).map fun t =>
      { t with expiresAt := january } }

/-- Every clock shows two seconds in 1970. -/
def newYear : ServerInput :=
  ⟨fun _ => ⟨62135596802 * second, 0⟩, fun _ => .ok [0]⟩

/-- Every key file can be read. -/
def files : Outside where
  readPrivate _ := .ok []
  requestPublishGrant _ _ := .error (errorsNew "remote")
  announceRecord _ := .error (errorsNew "remote")

def publishedSpec : PipeSpec where
  ref := ⟨.pipe, str "web"⟩
  pipeID := pipeID
  scope := some scope
  ingress := ⟨.tubo, [], [], [], []⟩
  target := ⟨.service, str "web"⟩
  visibility := .discoverable
  access := .members
  allowReexport := false
  createdAt := ⟨second, 0⟩
  updatedAt := ⟨second, 0⟩

/-- A Pipe with a grant of epoch 0, in a Scope of the machine. -/
def publishedStore : Store :=
  { pipes := AList.insert (str "pipe/web")
      ⟨pipeID, publishedSpec, str "owner", tokenText 4 0 0⟩ ∅
    scopes := AList.insert scope.string ⟨rawURLEncode key, str "authority", str "swarm"⟩ ∅ }

/-- A revocation of the publication of the Pipe, with epoch 1. -/
def publishRevocation : PublicationCall :=
  .authority (.revoke scope.string pipePublish pipeID 1 ⟨2 * second, 0⟩)

def announcement : PublicationCall :=
  .authority (.serve (ask "records.announce" 0 [1]) calm)

def iteration : PublicationCall := .iterate (str "pipe/web") newYear files

/-- A publisher runs while the publication is revoked. -/
def publisherHistory : List PublicationCall :=
  [.start (str "pipe/web") (.ok ⟨str "peer", str "a"⟩) newYear.clock files,
    publishRevocation, iteration]

/-- The state before the `k`-th call. -/
def publisherState (calls : List PublicationCall) (k : ℕ) : PublicationState :=
  stateAt (PublicationCall.effect unchecked monthJSON authority)
    ⟨⟨publishedStore, {}⟩, fun _ => none⟩ calls k

end Sample

end Tubo
