import Tubo.Cli.Fleet
import Tubo.Discovery.Replay
import Tubo.Store.Redemption

/-!
# The authority of a Scope

Package `internal/runtime`, file `authority.go`: `process`, the protocol of the
authority of a Scope, with all its operations.  A request names an operation and
carries a token of the authority; the answer may carry a publish grant, a share
invite, or a pair of leases.

An operation is a program over single statements and transactions of the database.
What the surroundings decide about a request, the readings of its clock and its
random bytes, is given with it.
-/

namespace Tubo

open Concurrency

/-! ## Tokens -/

/-- JSON of tokens and records, of the route in `share_invite.issue` and of the
subject in `revocation.issue`. -/
structure AuthorityJSON extends RecordJSON where
  marshalToken : Token → Except GoError Bytes
  unmarshalRoute : Bytes → Except GoError GoString
  unmarshalRevocation : Bytes → Except GoError (GoString × GoString × ℕ)

variable (prim : Primitives) (json : AuthorityJSON)

/-- `AccessLeaseTTL`. -/
def accessLeaseTTL : Duration := 10 * minute

/-- `RefreshLeaseTTL`. -/
def refreshLeaseTTL : Duration := 48 * 60 * minute

/-- `NewToken`. -/
def newToken (type : String) (scope : Scope) (subject audience : GoString)
    (lifetime : Duration) (random : Except GoError Bytes) (now : Time) :
    Except GoError Token := do
  let jti ← newJTI random
  return { version := 2, type := str type, issuer := [], subject, audience, scope,
           role := [], jti, issuedAt := now.utc, expiresAt := now.utc.add lifetime,
           authorityAddress := [], namespaceKey := [], oneTime := false,
           pipeEndpoint := none, displayNameHint := [], accessEpoch := 0,
           publishEpoch := 0, signature := [] }

/-- `Token.Sign`. -/
def Token.sign (secret : Bytes) (t : Token) : Except GoError Token := do
  let named := { t with issuer := rawURLEncode (prim.publicKey secret) }
  let message ← json.tokenBody named
  return { named with signature := rawURLEncode (prim.sign secret message) }

/-- `authority.Encode`. -/
def encodeToken (t : Token) : Except GoError GoString := do
  let data ← json.marshalToken t
  let encoded := rawURLEncode data
  failIf (maxTokenSize < encoded.length) (errorsNew "token exceeds 48 KiB encoded field")
  return encoded

/-! ## Requests -/

/-- `AuthorityRequest`. -/
structure AuthorityRequest where
  operation : GoString
  token : GoString
  pipeID : GoString := []
  clientPublic : GoString
  nonce : GoString
  proof : GoString
  record : Bytes := []
  subjects : List GoString := []
  accessLease : GoString := []
  deriving DecidableEq, Repr

/-- What the surroundings decide about a request. -/
structure ServerInput where
  clock : ℕ → Time
  random : ℕ → Except GoError Bytes

/-- `AuthorityResponse` with `OK`. -/
structure AuthorityReply where
  lease : GoString := []
  refreshLease : GoString := []
  grant : GoString := []
  invite : GoString := []
  records : List Bytes := []
  revocations : List (GoString × GoString × ℕ) := []
  deriving DecidableEq, Repr

/-- `authorityHandler`, with its private key. -/
structure ScopeAuthority extends AuthorityHandler where
  privateKey : Bytes

/-! ## Steps -/

/-- The tables of the authority. -/
structure AuthorityTables where
  store : Store := {}
  discovery : Discovery := {}

/-- One statement or transaction. -/
inductive AuthorityCommand
  | store (c : StoreCommand)
  | discovery (c : DiscoveryCommand)
  | recordInScope (scope pipeID : GoString) (now : Time)
  | revocations (scope : GoString) (subjects : List GoString)

@[reducible]
def AuthorityCommand.Response : AuthorityCommand → Type
  | .store c => c.Response
  | .discovery c => Except GoError c.Out
  | .recordInScope .. => Except GoError Record
  | .revocations .. => Except GoError (List (GoString × GoString × ℕ))

/-- The query of `RecordInScope`. -/
def Discovery.recordInScope (d : Discovery) (scope pipeID : GoString) (now : Time) :
    Except GoError Record :=
  match d.records.lookup ⟨scope, pipeID⟩ with
  | some row =>
    if expired row now then
      .error (.wrap [] errNotFound (str ": pipe/" ++ pipeID ++ str " in " ++ scope))
    else .ok (row.record ⟨scope, pipeID⟩)
  | none =>
    .error (.wrap [] errNotFound (str ": pipe/" ++ pipeID ++ str " in " ++ scope))

/-- `Revocations`. -/
def Store.revocationsOf (s : Store) (scope : GoString) (subjects : List GoString) :
    Except GoError (List (GoString × GoString × ℕ)) := do
  failIf (256 < subjects.length) (errorsNew "too many revocation subjects")
  return (s.revocations.entries.filter fun entry =>
    entry.1.scope == scope && subjects.contains entry.1.subjectJTI).map fun entry =>
      (entry.1.subjectType, entry.1.subjectJTI, entry.2.epoch)

/-- The effect of a command. -/
def AuthorityTables.execute : (c : AuthorityCommand) → AuthorityTables →
    c.Response × AuthorityTables
  | .store c, s =>
    let done := Store.execute c s.store
    (done.1, { s with store := done.2 })
  | .discovery c, s =>
    (s.discovery.outcome c, { s with discovery := s.discovery.effect c })
  | .recordInScope scope pipeID now, s =>
    (s.discovery.recordInScope scope pipeID now, s)
  | .revocations scope subjects, s => (s.store.revocationsOf scope subjects, s)

/-- The response of a command that fails. -/
def AuthorityCommand.failed (error : GoError) : (c : AuthorityCommand) → c.Response
  | .store _ | .discovery _ | .recordInScope .. | .revocations .. => .error error

/-- What a command may do: take its effect, or fail and change nothing. -/
def AuthorityExec (c : AuthorityCommand) (s : AuthorityTables) (response : c.Response)
    (after : AuthorityTables) : Prop :=
  (response, after) = s.execute c ∨ ∃ error, response = c.failed error ∧ after = s

/-! ## The operations -/

abbrev AuthorityProgram (α : Type) :=
  Program AuthorityCommand AuthorityCommand.Response (Except GoError α)

/-- A program over the tables of `store`. -/
def onStore {α : Type} (program : StoreProgram α) : AuthorityProgram α :=
  program.relabel .store fun _ response => response

/-- `RecordInScope`: expired records of other authorities are deleted first. -/
def recordInScope (scope pipeID : GoString) (clock : ℕ → Time) : AuthorityProgram Record :=
  .call (.discovery (.pruneExpiredRecords (clock 0))) fun
    | .error error => .done (.error error)
    | .ok _ => .call (.recordInScope scope pipeID (clock 1)) .done

namespace ScopeAuthority

variable (h : ScopeAuthority)

/-- `RevocationEpoch`, with the text for its failure. -/
def epochOf (subjectType pipeID : GoString) (failure : String) : AuthorityProgram ℕ :=
  .call (.store (.revocationEpoch h.scope.string subjectType pipeID)) fun epoch =>
    .done (errorf failure epoch)

/-- A stored record, parsed and verified. -/
def readPublication (stored : Record) (now : Time) : Except GoError PipeRecord :=
  match PipeRecord.parse json.toRecordJSON stored.payload with
  | .error _ => .error (errorsNew "authorization_denied: invalid pipe publication")
  | .ok record =>
    match record.verify prim json.toRecordJSON h.publicKey h.scope now with
    | .error _ => .error (errorsNew "authorization_denied: invalid pipe publication")
    | .ok () => .ok record

/-- The published record of a Pipe, as three operations look for it. -/
def publication (pipeID : GoString) (clock : ℕ → Time) : AuthorityProgram PipeRecord :=
  (Tubo.recordInScope h.scope.string pipeID clock).bind fun
    | .error _ => .done (.error (errorsNew "not_found: pipe record"))
    | .ok stored => .done (h.readPublication prim json stored (clock 2))

/-- The pair of tokens of `mintLeases`, for an epoch. -/
def leaseTokens (subject pipeID : GoString) (epoch : ℕ) (e : ServerInput) :
    Except GoError (Token × Token) := do
  let access ← newToken "connect.access" h.scope subject pipeID accessLeaseTTL
    (e.random 1) (e.clock 4)
  let refresh ← newToken "connect.refresh" h.scope subject pipeID refreshLeaseTTL
    (e.random 2) (e.clock 5)
  let access ← Token.sign prim json h.privateKey { access with accessEpoch := epoch }
  let refresh ← Token.sign prim json h.privateKey { refresh with accessEpoch := epoch }
  return (access, refresh)

/-- The answer of `mintLeases`, for an epoch. -/
def leasePair (subject pipeID : GoString) (epoch : ℕ) (e : ServerInput) :
    Except GoError AuthorityReply := do
  let (access, refresh) ← h.leaseTokens prim json subject pipeID epoch e
  let lease ← encodeToken json access
  let refreshLease ← encodeToken json refresh
  return { lease, refreshLease }

/-- `mintLeases`, at the end of three operations. -/
def mintLeases (subject pipeID : GoString) (e : ServerInput) : AuthorityProgram AuthorityReply :=
  (h.epochOf pipeAccess pipeID "persistence_failed: revocation epoch: ").andThen
    fun epoch => .done (h.leasePair prim json subject pipeID epoch e)

/-- `requireMembership`. -/
def requireMembership (invite : Token) : Except GoError Unit :=
  failIf (invite.type ≠ str "membership.invite")
    (errorsNew "authorization_denied: invalid membership invite")

/-- The checks of a publisher's operation. -/
def requirePublisher (invite : Token) (complaint : String) : Except GoError Unit := do
  requireMembership invite
  failIf (invite.role ≠ str "publisher") (errorsNew complaint)

/-- The fresh grant of `pipe_publish.request`, which does not outlive the
membership. -/
def freshGrant (request : AuthorityRequest) (invite : Token) (e : ServerInput) :
    Except GoError Token := do
  requirePublisher invite "authorization_denied: role cannot publish"
  failIf (request.pipeID = []) (errorsNew "invalid_input: pipe_id required")
  let grant ← newToken "pipe.publish" h.scope request.clientPublic request.pipeID
    (30 * 24 * 60 * minute) (e.random 0) (e.clock 1)
  return if grant.expiresAt.after invite.expiresAt then
      { grant with expiresAt := invite.expiresAt }
    else grant

/-- The case `pipe_publish.request`. -/
def requestPublish (request : AuthorityRequest) (invite : Token) (e : ServerInput) :
    AuthorityProgram AuthorityReply :=
  Program.andThen (.done (h.freshGrant request invite e)) fun grant =>
    (h.epochOf pipePublish request.pipeID "persistence_failed: publish epoch: ").andThen
      fun publishEpoch => .done do
        let signed ← Token.sign prim json h.privateKey { grant with publishEpoch }
        let encoded ← encodeToken json signed
        return { grant := encoded }

/-- The case `records.announce`. -/
def announceRecord (request : AuthorityRequest) (invite : Token) (e : ServerInput) :
    AuthorityProgram AuthorityReply :=
  Program.andThen (.done do
      requirePublisher invite "authorization_denied: role cannot announce records"
      h.toAuthorityHandler.announce prim json.toRecordJSON request.record
        request.pipeID request.clientPublic (e.clock 1))
    fun record =>
      .call (.discovery (.putAuthoritativeRecord record (e.clock 2))) fun
        | .error error => .done (.error error)
        | .ok _ => .done (.ok {})

/-- The loop of `records.list`: the payloads of the discoverable records, and
whether they all fit. -/
def listRecords : (ℕ → Time) → List Record → ℕ → Except GoError (List Bytes × Bool)
  | _, [], _ => .ok ([], true)
  | clock, stored :: rest, size =>
    match PipeRecord.parse json.toRecordJSON stored.payload with
    | .error _ => .error AuthorityHandler.errStoredInvalid
    | .ok record =>
      match record.verify prim json.toRecordJSON h.publicKey h.scope (clock 0) with
      | .error _ => .error AuthorityHandler.errStoredInvalid
      | .ok () =>
        if record.visibility ≠ .discoverable then
          listRecords (fun k => clock (k + 1)) rest size
        else if maxFrame / 2 < size + stored.payload.length then .ok ([], false)
        else do
          let (payloads, complete) ← listRecords (fun k => clock (k + 1)) rest
            (size + stored.payload.length)
          return (stored.payload :: payloads, complete)

/-- The case `records.list`. -/
def list (invite : Token) (e : ServerInput) : AuthorityProgram AuthorityReply :=
  Program.andThen (.done do
      requireMembership invite
      failIf (invite.role ∉ AuthorityHandler.discoverRoles)
        (errorsNew "authorization_denied: role cannot discover"))
    fun _ =>
      .call (.discovery (.authoritySnapshot h.scope.string maxSnapshotRecords (e.clock 1))) fun
        | .error error => .done (.error error)
        | .ok (read : Discovery.SnapshotRead) => .done do
            let (records, complete) ← h.listRecords prim json (fun k => e.clock (k + 2))
              read.records 0
            failIf ((read.complete && complete) = false) AuthorityHandler.errIncomplete
            return { records }

/-- The roles that may connect. -/
def connectRoles : List GoString :=
  [str "member", str "publisher", str "forwarder"]

/-- The case `connect_access.issue`. -/
def issueAccess (request : AuthorityRequest) (invite : Token) (e : ServerInput) :
    AuthorityProgram AuthorityReply :=
  Program.andThen (.done do
      requireMembership invite
      failIf (invite.role ∉ connectRoles) (errorsNew "authorization_denied: role cannot connect")
      failIf (request.pipeID = []) (errorsNew "invalid_input: pipe_id required"))
    fun _ =>
      (h.publication prim json request.pipeID (fun k => e.clock (k + 1))).andThen fun record =>
          if record.access ≠ .members then
            .done (.error (errorsNew "authorization_denied: pipe requires an exact share invite"))
          else h.mintLeases prim json request.clientPublic request.pipeID e

/-- The current access lease of `connect_refresh.exchange`. -/
def currentLease (request : AuthorityRequest) (invite : Token) (now : Time) :
    Except GoError Token := do
  failIf (invite.type ≠ str "connect.refresh" ∨ invite.audience ≠ request.pipeID ∨
      invite.subject ≠ request.clientPublic)
    (errorsNew "authorization_denied: invalid refresh lease")
  let invalid := errorsNew "authorization_denied: invalid current access lease"
  match decodeToken json.toRecordJSON request.accessLease with
  | .error _ => .error invalid
  | .ok access =>
    match access.verify prim json.toRecordJSON h.publicKey now with
    | .error _ => .error invalid
    | .ok () => do
        failIf (access.type ≠ str "connect.access" ∨
          access.audience ≠ invite.audience ∨ access.subject ≠ invite.subject) invalid
        return access

/-- The check of one lease against the revocations. -/
def requireUnrevoked (subjectType jti : GoString) (complaint : String) : AuthorityProgram Unit :=
  .call (.store (.isRevoked h.scope.string subjectType jti)) fun answer =>
    .done do
      let revoked ← errorf "persistence_failed: revocation: " answer
      failIf (revoked = true) (errorsNew complaint)

/-- The case `connect_refresh.exchange`. -/
def exchangeRefresh (request : AuthorityRequest) (invite : Token) (e : ServerInput) :
    AuthorityProgram AuthorityReply :=
  Program.andThen (.done (h.currentLease prim json request invite (e.clock 1))) fun access =>
      (h.epochOf pipeAccess invite.audience
          "persistence_failed: revocation epoch: ").andThen fun epoch =>
        if access.accessEpoch < epoch ∨ invite.accessEpoch < epoch then
          .done (.error (errorsNew "authorization_denied: access epoch revoked"))
        else
          (h.requireUnrevoked (str "connect.refresh") invite.jti
              "authorization_denied: lease revoked").andThen fun _ =>
            (h.requireUnrevoked (str "connect.access") access.jti
                "authorization_denied: lease revoked").andThen fun _ =>
              h.mintLeases prim json request.clientPublic request.pipeID e

/-- The share of `share_invite.issue`, for its epochs. -/
def share (record : PipeRecord) (fresh : Token) (address : GoString)
    (accessEpoch publishEpoch : ℕ) : Except GoError AuthorityReply := do
  let endpoint : PipeEndpoint :=
    ⟨record.runtimePeerID, record.addresses, record.protocol⟩
  let signed ← Token.sign prim json h.privateKey
    { fresh with oneTime := true, accessEpoch, publishEpoch,
                 authorityAddress := address, pipeEndpoint := some endpoint,
                 displayNameHint := record.displayName }
  let encoded ← encodeToken json signed
  return { invite := encoded }

/-- The fresh token and the route of `share_invite.issue`. -/
def freshShare (request : AuthorityRequest) (record : PipeRecord) (e : ServerInput) :
    Except GoError (Token × GoString) := do
  let denied := errorsNew "authorization_denied: publish permission required"
  match decodeToken json.toRecordJSON record.publishGrant with
  | .error _ => .error denied
  | .ok grant => do
      failIf (grant.subject ≠ request.clientPublic) denied
      let fresh ← newToken "share.invite" h.scope request.clientPublic request.pipeID
        (48 * 60 * minute) (e.random 0) (e.clock 4)
      match json.unmarshalRoute request.record with
      | .error _ => .error (errorsNew "invalid_input: authority route required")
      | .ok address => do
          failIf (address = [] ∨ 8192 < address.length)
            (errorsNew "invalid_input: authority route required")
          return (fresh, address)

/-- The case `share_invite.issue`. -/
def issueShare (request : AuthorityRequest) (invite : Token) (e : ServerInput) :
    AuthorityProgram AuthorityReply :=
  Program.andThen (.done (requirePublisher invite "authorization_denied: role cannot share"))
    fun _ =>
      (h.publication prim json request.pipeID (fun k => e.clock (k + 1))).andThen fun record =>
          Program.andThen (.done (h.freshShare json request record e)) fun (fresh, address) =>
              (h.epochOf pipeAccess request.pipeID
                  "persistence_failed: access epoch: ").andThen fun accessEpoch =>
                (h.epochOf pipePublish request.pipeID
                    "persistence_failed: publish epoch: ").andThen fun publishEpoch =>
                  .done (h.share prim json record fresh address accessEpoch publishEpoch)

/-- The check of `share_invite.redeem` on the presented invite. -/
def requireShare (request : AuthorityRequest) (invite : Token) : Except GoError Unit :=
  failIf (invite.type ≠ str "share.invite" ∨ invite.oneTime = false ∨
      invite.audience ≠ request.pipeID ∨ invite.pipeEndpoint = none)
    (errorsNew "authorization_denied: invalid share invite")

/-- The redemption of `share_invite.redeem`. -/
def redeem (request : AuthorityRequest) (invite : Token) (sessionID : GoString)
    (now : Time) : AuthorityProgram Unit :=
  (onStore (redeemInvite invite.jti invite.audience sessionID request.clientPublic now)).bind fun
    | .ok _ => .done (.ok ())
    | .error error =>
      .done (.error (if error.is errInviteRedeemed then
          errorsNew "authorization_denied: invite already redeemed"
        else .wrap (str "persistence_failed: redeem invite: ") error []))

/-- The case `share_invite.redeem`. -/
def redeemShare (request : AuthorityRequest) (invite : Token) (e : ServerInput) :
    AuthorityProgram AuthorityReply :=
  Program.andThen (.done (requireShare request invite)) fun _ =>
    (h.publication prim json invite.audience (fun k => e.clock (k + 1))).andThen fun _ =>
        (h.requireUnrevoked shareInviteSubject invite.jti
            "authorization_denied: invite revoked").andThen fun _ =>
          Program.andThen (.done (newSessionID (e.random 0))) fun sessionID =>
            (redeem request invite sessionID (e.clock 6)).andThen fun _ =>
              h.mintLeases prim json request.clientPublic request.pipeID e

/-- The case `revocation.issue`. -/
def revoke (request : AuthorityRequest) (invite : Token) (e : ServerInput) :
    AuthorityProgram AuthorityReply :=
  Program.andThen (.done (requirePublisher invite
      "authorization_denied: role cannot revoke")) fun _ =>
    match json.unmarshalRevocation request.record with
    | .error _ => .done (.error (errorsNew "invalid_input: invalid revocation"))
    | .ok (subjectType, subjectJTI, epoch) =>
      (onStore (issueRevocation true (str "publisher") h.scope.string subjectType
        subjectJTI epoch (e.clock 1))).andThen fun _ => .done (.ok {})

/-- The case `revocation.query`. -/
def query (request : AuthorityRequest) (invite : Token) : AuthorityProgram AuthorityReply :=
  Program.andThen (.done (failIf (invite.type ∉ [str "membership.invite",
        str "connect.refresh", str "share.invite"])
      (errorsNew "authorization_denied: invalid query token"))) fun _ =>
    .call (.revocations h.scope.string request.subjects) fun answer =>
      .done do
        let revocations ← errorf "persistence_failed: revocation: " answer
        return { revocations }

/-- The checks of `process` on every request: the presented token. -/
def presentedToken (request : AuthorityRequest) (now : Time) : Except GoError Token := do
  failIf (boundedStrings 8192 [request.operation, request.pipeID,
        request.clientPublic, request.nonce, request.proof,
        request.accessLease] = false ∨
      maxTokenSize < request.token.length ∨
      maxTokenSize < request.accessLease.length ∨
      maxRecordSize < request.record.length ∨ 256 < request.subjects.length)
    (errorsNew "invalid_input: authority field exceeds limit")
  let invite ← errorf "authorization_denied: " (decodeToken json.toRecordJSON request.token)
  errorf "authorization_denied: " (invite.verify prim json.toRecordJSON h.publicKey now)
  failIf (invite.scope ≠ h.scope) (errorsNew "authorization_denied: token scope mismatch")
  match authorityPublicFromString request.clientPublic with
  | .error _ => .error (errorsNew "authorization_denied: invalid client key")
  | .ok clientPublic => do
      failIf (authorityVerifyProof prim clientPublic request.proof
          (str "tubo-authority-v2") [request.operation, request.pipeID, request.nonce,
            invite.jti] = false)
        (errorsNew "authorization_denied: invalid proof of possession")
      return invite

/-- The operation of a request. -/
def dispatch (request : AuthorityRequest) (invite : Token) (e : ServerInput) :
    AuthorityProgram AuthorityReply :=
  if request.operation = str "pipe_publish.request" then
    h.requestPublish prim json request invite e
  else if request.operation = str "records.announce" then
    h.announceRecord prim json request invite e
  else if request.operation = str "records.list" then h.list prim json invite e
  else if request.operation = str "connect_access.issue" then
    h.issueAccess prim json request invite e
  else if request.operation = str "connect_refresh.exchange" then
    h.exchangeRefresh prim json request invite e
  else if request.operation = str "share_invite.issue" then
    h.issueShare prim json request invite e
  else if request.operation = str "share_invite.redeem" then
    h.redeemShare prim json request invite e
  else if request.operation = str "revocation.issue" then
    h.revoke json request invite e
  else if request.operation = str "revocation.query" then h.query request invite
  else .done (.error (errorsNew "invalid_input: unknown authority operation"))

/-- `process`. -/
def process (request : AuthorityRequest) (e : ServerInput) : AuthorityProgram AuthorityReply :=
  Program.andThen (.done (h.presentedToken prim json request (e.clock 0))) fun invite =>
    h.dispatch prim json request invite e

end ScopeAuthority

end Tubo
