import Tubo.Discovery.Snapshot
import Tubo.Runtime.Forwarding
import Tubo.Store.Connection

/-!
# Opening the next Pipe

The engine resolves the target of a Pipe to a `PipeSpec` and checks its identifier
against the visited chain.  What is then opened is found elsewhere: the downstream
opener of `engine_adapter.go` looks up a discovery record under the *name* of the
resolved Pipe, and `runLocalPipe` under the name of the target.

`opened_is_checked_iff` says what follows: the Pipe that is opened is the one that
was checked exactly if its name is its identifier.
-/

namespace Tubo

open Concurrency

variable (prim : Primitives) (json : RecordJSON)

/-! ## Looking up a record -/

/-- `Store.Record`: the one record of a Pipe that has not expired.  Pruning before
the query changes nothing of the answer. -/
def Discovery.record (d : Discovery) (pipeID : GoString) (now : Time) : Except GoError Record :=
  match ((d.pruneExpiredRecords now).records.entries.filter fun entry =>
      entry.1.pipeID == pipeID && !expired entry.2 now).map fun entry =>
        entry.2.record entry.1 with
  | [] => .error (.wrap [] errNotFound (str ": pipe/" ++ pipeID))
  | [record] => .ok record
  | _ => .error (.new (str "conflict: pipe/" ++ pipeID ++
      str " exists in multiple scopes; specify scope"))

/-- A record is found under its own identifier. -/
theorem Discovery.record_pipeID {d : Discovery} {pipeID : GoString} {now : Time}
    {record : Record} (found : d.record pipeID now = .ok record) : record.pipeID = pipeID := by
  unfold Discovery.record at found
  split at found
  · cases found
  · rename_i single
    cases found
    have member : record ∈ [record] := List.mem_singleton_self _
    rw [← single, List.mem_map] at member
    obtain ⟨entry, selected, rfl⟩ := member
    rw [List.mem_filter, Bool.and_eq_true, beq_iff_eq] at selected
    exact selected.2.1
  · cases found

/-! ## Commands -/

/-- What the openers do to the outside. -/
inductive OpenerCommand
  | pipe (identifier : GoString)
  | service (ref : Ref)
  | validateService (service : ServiceSpec)
  | dialService (service : ServiceSpec)
  | record (pipeID : GoString)
  | membership (scope : GoString)
  | now
  | currentLease
  | requestLeasePair (scope pipeID : GoString)
  | setLeases (access refresh : GoString)
  | putConnectLease (pipeID scope access refresh : GoString)
  | startRefresh (scope pipeID : GoString)
  | dialPeer (address : GoString)
  | newStream (peer : GoString)
  | readPrivate (file : GoString)
  | writeHello (hello : ClientHello)
  | readServerHello
  | writeOpen (request : OpenPipe)
  | readResult

/-- What they get back.  A current lease is `none` if it is missing or about to
expire; `requestLeasePair` is `RequestLeasePair`, which asks the Scope authority. -/
@[reducible]
def OpenerCommand.Response : OpenerCommand → Type
  | .pipe _ => Except GoError PipeSpec
  | .service _ => Except GoError ServiceSpec
  | .validateService _ => Except GoError Unit
  | .dialService _ => Except GoError Unit
  | .record _ => Except GoError Record
  | .membership _ => Except GoError Membership
  | .now => Time
  | .currentLease => Option (GoString × GoString)
  | .requestLeasePair .. => Except GoError (GoString × GoString)
  | .setLeases .. => Except GoError Unit
  | .putConnectLease .. => Except GoError Unit
  | .startRefresh .. => Unit
  | .dialPeer _ => Except GoError GoString
  | .newStream _ => Except GoError Unit
  | .readPrivate _ => Except GoError Bytes
  | .writeHello _ => Except GoError Unit
  | .readServerHello => Except GoError ServerHello
  | .writeOpen _ => Except GoError Unit
  | .readResult => Except GoError OpenResult

abbrev OpenerProgram (α : Type) :=
  Program OpenerCommand OpenerCommand.Response α

abbrev OpenerExchange := Exchange OpenerCommand OpenerCommand.Response

/-! ## The tunnel handshake -/

/-- Why a tunnel was not set up. -/
inductive TunnelFailure
  | lease (error : GoError)
  | noAddress
  | dial (error : GoError)
  | localState (error : GoError)
  | frame (error : GoError)
  | mismatch
  | refused (result : OpenResult)

/-- The lease of `openRemotePipeCarrier` and `openLocalConnection`: the cached one,
or a new one, which is cached. -/
def acquireLease (record : PipeRecord) : OpenerProgram (Except TunnelFailure GoString) :=
  .call .currentLease fun
    | some (access, _) => .done (.ok access)
    | none =>
      .call (.requestLeasePair record.scope.string record.pipeID) fun
        | .error error => .done (.error (.lease error))
        | .ok (access, refresh) =>
          .call (.setLeases access refresh) fun
            | .error error => .done (.error (.lease error))
            | .ok () =>
              .call (.putConnectLease record.pipeID record.scope.string access refresh) fun
                | .error error => .done (.error (.lease error))
                | .ok () => .done (.ok access)

/-- The frames on the stream, with the private key of the member. -/
def exchangeFrames (record : PipeRecord) (visited : List GoString) (hopLimit : ℤ)
    (lease : GoString) (secret : Bytes) : OpenerProgram (Except TunnelFailure OpenResult) :=
  .call (.writeHello ⟨str "2.0", rawURLEncode (prim.publicKey secret), baseSessionCapabilities⟩) fun
    | .error error => .done (.error (.frame error))
    | .ok () =>
      .call .readServerHello fun
        | .error error => .done (.error (.frame error))
        | .ok server =>
          if server.pipeID ≠ record.pipeID ∨ server.version ≠ str "2.0" then
            .done (.error .mismatch)
          else
            .call (.writeOpen ⟨record.pipeID, signProof prim secret
                openProofPurpose [server.challenge, record.pipeID], lease,
                visited, hopLimit⟩) fun
              | .error error => .done (.error (.frame error))
              | .ok () =>
                .call .readResult fun
                  | .error error => .done (.error (.frame error))
                  | .ok result =>
                    if result.ok then .done (.ok result)
                    else .done (.error (.refused result))

/-- The common body of `openRemotePipeCarrier` and `openLocalConnection`, up to
the OK result. -/
def openTunnel (record : PipeRecord) (visited : List GoString) (hopLimit : ℤ) :
    OpenerProgram (Except TunnelFailure OpenResult) :=
  (acquireLease record).andThen fun lease =>
    .call (.startRefresh record.scope.string record.pipeID) fun () =>
      match record.addresses with
      | [] => .done (.error .noAddress)
      | address :: _ =>
        .call (.dialPeer address) fun
          | .error error => .done (.error (.dial error))
          | .ok peer =>
            .call (.newStream peer) fun
              | .error error => .done (.error (.dial error))
              | .ok () =>
                .call (.membership record.scope.string) fun
                  | .error error => .done (.error (.localState error))
                  | .ok membership =>
                    .call (.readPrivate membership.clientKeyFile) fun
                      | .error error =>
                        .done (.error (.localState error))
                      | .ok secret => exchangeFrames prim record visited
                          hopLimit lease secret

/-- The error of `openRemotePipeCarrier`. -/
def TunnelFailure.error : TunnelFailure → GoError
  | .lease error | .dial error | .localState error | .frame error => error
  | .noAddress => errorsNew "pipe_unreachable: no record addresses"
  | .mismatch =>
    errorsNew "tunnel_handshake_failed: pipe or version mismatch"
  | .refused result => .new (result.errorCode ++ str ": " ++ result.message)

/-- Whether the setup may be tried again: `transient` in both openers. -/
def TunnelFailure.transient : TunnelFailure → Bool
  | .dial _ | .frame _ => true
  | _ => false

/-- The reason in the result of `openLocalConnection`. -/
def TunnelFailure.reason : TunnelFailure → String
  | .lease _ => "authority_unreachable"
  | .noAddress | .dial _ => "pipe_unreachable"
  | .localState _ => "local_authorization_state"
  | .frame _ | .mismatch | .refused _ => "tunnel_handshake_failed"

/-- `openRemotePipeCarrier`, with the session as its result. -/
def openRemotePipeCarrier (record : PipeRecord) (traversal : TraversalState) :
    OpenerProgram (Except TunnelFailure GoString) :=
  (openTunnel prim record traversal.visitedIDs traversal.hopLimit).bind fun
    | .error failure => .done (.error failure)
    | .ok result => .done (.ok result.sessionID)

/-- The setup of `openLocalConnection`. -/
def openLocalConnection (spec : PipeSpec) (record : PipeRecord) :
    OpenerProgram (Except TunnelFailure OpenResult) :=
  openTunnel prim record [spec.pipeID] defaultMaxPipeHops

/-! ## The adapter of the engine -/

/-- The checks of `ParseVerifiedRecord` on a parsed record. -/
def verifyRecord (stored : Record) (record : PipeRecord) :
    OpenerProgram (Except GoError PipeRecord) :=
  if record.pipeID ≠ stored.pipeID ∨ record.scope.string ≠ stored.scope ∨
      record.sequence ≠ stored.sequence then
    .done (.error (errorsNew "cached record index binding mismatch"))
  else
    .call (.membership record.scope.string) fun
      | .error error => .done (.error error)
      | .ok membership =>
        match authorityPublicFromString membership.authorityPublic with
        | .error error => .done (.error error)
        | .ok authority =>
          .call .now fun now =>
            .done (errorf "cached record verification: "
              (record.verify prim json authority record.scope
                (Time.utc now)) >>= fun () => .ok record)

/-- `ParseVerifiedRecord`. -/
def parseVerifiedRecord (stored : Record) : OpenerProgram (Except GoError PipeRecord) :=
  match PipeRecord.parse json stored.payload with
  | .error error => .done (.error error)
  | .ok record => verifyRecord prim json stored record

/-- A lookup of a record and its verification. -/
def verifiedRecord (name : GoString) : OpenerProgram (Except GoError PipeRecord) :=
  .call (.record name) fun
    | .error error => .done (.error error)
    | .ok stored => parseVerifiedRecord prim json stored

/-- The opener that `newDownstreamPipeOpener` returns. -/
def downstreamPipeOpener (nextSpec : PipeSpec) (traversal : TraversalState) :
    OpenerProgram (Except GoError GoString) :=
  (verifiedRecord prim json nextSpec.ref.name).andThen fun record =>
    (openRemotePipeCarrier prim record traversal).bind fun
      | .error failure => .done (.error failure.error)
      | .ok session => .done (.ok session)

/-- The functions that `newPipeEngine` gives to the engine, and the downstream
opener. -/
def pipeEngine (_ : Unit) : (c : EngineCommand) → OpenerProgram (c.Response × Unit)
  | .resolveService ref => .call (.service ref) fun r => .done (r, ())
  | .resolvePipe ref => .call (.pipe ref.string) fun r => .done (r, ())
  | .validateService service =>
    .call (.validateService service) fun r => .done (r, ())
  | .dialService service => .call (.dialService service) fun r => .done (r, ())
  | .openDownstream next state =>
    (downstreamPipeOpener prim json next state).bind fun r =>
      .done (r.map fun _ => (), ())

/-- `Engine.Forward` as `serve` calls it, down to store and network. -/
def forwardDownstream (current : PipeSpec) (state : TraversalState) :
    OpenerProgram (Except GoError ForwardResult × Unit) :=
  (forward current state true).elaborate (pipeEngine prim json) ()

/-! ## The local Pipe runtime -/

/-- Where `runLocalPipe` goes after its checks: to the exact path, or on with the
record of the remote Pipe. -/
inductive LocalStart
  | exact
  | scoped (record : PipeRecord)

/-- The checks of `runLocalPipe`, up to the selection of the record. -/
def startLocalPipe (binding : Except GoError RemotePipeBinding)
    (graph : PipeGraph) (spec : PipeSpec) : OpenerProgram (Except GoError LocalStart) :=
  if spec.target.kind ≠ .pipe then
    .done (.error (errorsNew ("invalid_input: local ingress with Service target " ++
      "(local passthrough) is deferred to Step 8 (L4 workflows)")))
  else
    match binding with
    | .ok _ => .done (.ok .exact)
    | .error error =>
      if ¬error.is errNotFound then
        .done (.error (.wrap (str "persistence_failed: remote pipe binding: ") error []))
      else
        match graph.resolveLogicalPath spec.ref defaultMaxPipeHops with
        | .error error => .done (.error error)
        | .ok _ =>
          (verifiedRecord prim json spec.target.name).andThen fun record =>
            .done (.ok (.scoped record))

/-- `localPipeRecordResolver`. -/
structure RecordResolver where
  record : PipeRecord
  lastRecovery : Time

def localPipeRecoveryCooldown : Duration := 30 * second

/-- `sameEndpoint`. -/
def sameEndpoint (a b : PipeRecord) : Bool :=
  a.runtimePeerID == b.runtimePeerID && a.addresses == b.addresses

/-- What `resolve` does with the records it has fetched. -/
def RecordResolver.select (r : RecordResolver) (fetched : Except GoError (List PipeRecord)) :
    Except GoError Bool × RecordResolver :=
  match fetched with
  | .error error => (.error error, r)
  | .ok records =>
    match records.find? (·.pipeID == r.record.pipeID) with
    | none => (.error (errorsNew
        "pipe_unreachable: record absent from authoritative snapshot"), r)
    | some candidate =>
      if candidate.scope ≠ r.record.scope ∨ candidate.sequence < r.record.sequence then
        (.error (errorsNew "invalid discovered record: replayed remote pipe record"), r)
      else if candidate.sequence = r.record.sequence then
        if sameEndpoint candidate r.record then (.ok false, r)
        else (.error (errorsNew ("invalid discovered record: " ++
          "conflicting remote pipe record sequence")), r)
      else (.ok true, { r with record := candidate })

/-- `resolve`.  The calls hold `refreshMu`, so each is one step for the others. -/
def RecordResolver.resolve (r : RecordResolver) (recovery : Bool) (now : Time)
    (fetched : Except GoError (List PipeRecord)) : Except GoError Bool × RecordResolver :=
  if recovery ∧ now.sub r.lastRecovery < localPipeRecoveryCooldown then
    (.ok false, r)
  else if recovery then RecordResolver.select { r with lastRecovery := now } fetched
  else r.select fetched

/-- What a local connection does: it reads the current record, opens, and may ask
for a new record. -/
inductive LocalCommand
  | current
  | opener (command : OpenerCommand)
  | resolve

@[reducible]
def LocalCommand.Response : LocalCommand → Type
  | .current => PipeRecord
  | .opener command => command.Response
  | .resolve => Except GoError Bool

abbrev LocalProgram (α : Type) := Program LocalCommand LocalCommand.Response α

abbrev LocalExchange := Exchange LocalCommand LocalCommand.Response

/-- The loop of `serveLocalConnectionWithOpener`, with the number of attempts that
are left. -/
def serveLocalConnectionWithOpener (spec : PipeSpec) : ℕ → LocalProgram Bool
  | 0 => .done false
  | attempts + 1 =>
    .call .current fun record =>
      ((openLocalConnection prim spec record).relabel .opener fun _ response => response).bind fun
        | .ok _ => .done true
        | .error failure =>
          if ¬failure.transient ∨ attempts = 0 then .done false
          else
            .call .resolve fun
              | .ok true => serveLocalConnectionWithOpener spec attempts
              | _ => .done false

/-- `serveLocalConnection`. -/
def serveLocalConnection (spec : PipeSpec) : LocalProgram Bool :=
  serveLocalConnectionWithOpener prim spec 2

/-! ## What is opened -/

/-- A request that is written asks for the Pipe of the record, with this path. -/
def AsksFor (record : PipeRecord) (visited : List GoString) (hopLimit : ℤ)
    (command : OpenerCommand) : Prop :=
  ∀ request, command = .writeOpen request → request.pipeID = record.pipeID ∧
    request.visitedPipeIDs = visited ∧ request.hopLimit = hopLimit

section Opens

theorem openTunnel_asks (record : PipeRecord) (visited : List GoString)
    (hopLimit : ℤ) (history : List OpenerExchange) :
    (openTunnel prim record visited hopLimit).Always
      (fun _ => AsksFor record visited hopLimit) (fun _ _ => True) history := by
  have other : ∀ command, (∀ request, command ≠ .writeOpen request) →
      AsksFor record visited hopLimit command :=
    fun command isOther request same => absurd same (isOther request)
  have lease : ∀ history, (acquireLease record).Always
      (fun _ => AsksFor record visited hopLimit) (fun _ _ => True) history := by
    intro history
    refine ⟨other _ nofun, ?_⟩
    rintro (_ | ⟨access, refresh⟩)
    · refine ⟨other _ nofun, ?_⟩
      rintro (error | ⟨access, refresh⟩)
      · trivial
      refine ⟨other _ nofun, ?_⟩
      rintro (error | ⟨⟩)
      · trivial
      refine ⟨other _ nofun, ?_⟩
      rintro (error | ⟨⟩) <;> trivial
    · trivial
  have frames : ∀ lease secret history, (exchangeFrames prim record visited
      hopLimit lease secret).Always (fun _ => AsksFor record visited hopLimit)
        (fun _ _ => True) history := by
    intro lease secret history
    refine ⟨other _ nofun, ?_⟩
    rintro (error | ⟨⟩)
    · trivial
    refine ⟨other _ nofun, ?_⟩
    rintro (error | server)
    · trivial
    dsimp only
    split
    · trivial
    refine ⟨?_, ?_⟩
    · rintro request same
      cases same
      exact ⟨rfl, rfl, rfl⟩
    rintro (error | ⟨⟩)
    · trivial
    refine ⟨other _ nofun, ?_⟩
    rintro (error | result)
    · trivial
    dsimp only
    split <;> trivial
  refine Program.Always.bind ((lease history).mono ?_)
  rintro history (failure | access) -
  · trivial
  refine ⟨other _ nofun, fun _ => ?_⟩
  split
  · trivial
  refine ⟨other _ nofun, ?_⟩
  rintro (error | peer)
  · trivial
  refine ⟨other _ nofun, ?_⟩
  rintro (error | ⟨⟩)
  · trivial
  refine ⟨other _ nofun, ?_⟩
  rintro (error | membership)
  · trivial
  refine ⟨other _ nofun, ?_⟩
  rintro (error | secret)
  · trivial
  exact frames _ _ _

/-- A request that is written asks for a Pipe whose record was read under this
name. -/
def AsksForNamed (name : GoString) (history : List OpenerExchange)
    (command : OpenerCommand) : Prop :=
  ∀ request, command = .writeOpen request → ∃ stored,
    ⟨.record name, .ok stored⟩ ∈ history ∧ request.pipeID = stored.pipeID

/-- A verified record has the identifier under which it was stored. -/
theorem verifiedRecord_named (name : GoString) (history : List OpenerExchange) :
    (verifiedRecord prim json name).Always (AsksForNamed name)
      (fun later outcome => ∀ record, outcome = .ok record → ∃ stored,
        ⟨.record name, .ok stored⟩ ∈ later ∧ record.pipeID = stored.pipeID)
      history := by
  refine ⟨nofun, ?_⟩
  rintro (error | stored)
  · intro _ failed
    cases failed
  dsimp only [parseVerifiedRecord]
  split
  · intro _ failed
    cases failed
  unfold verifyRecord
  split
  · intro _ failed
    cases failed
  refine ⟨nofun, ?_⟩
  rintro (error | membership)
  · intro _ failed
    cases failed
  dsimp only
  split
  · intro _ failed
    cases failed
  refine ⟨nofun, fun now selected verified => ?_⟩
  grind [bind_eq_ok]

/-- The downstream opener asks for the Pipe whose record has the name of the
resolved Pipe. -/
theorem downstreamPipeOpener_named (next : PipeSpec) (state : TraversalState)
    (history : List OpenerExchange) :
    (downstreamPipeOpener prim json next state).Always
      (AsksForNamed next.ref.name) (fun _ _ => True) history := by
  refine Program.Always.bind ((verifiedRecord_named prim json _ history).mono ?_)
  rintro history (error | record) established
  · trivial
  obtain ⟨stored, read, same⟩ := established record rfl
  -- From here on the record stays in the history.
  have asks := (openTunnel_asks prim record state.visitedIDs state.hopLimit history).keeping
    (fun _ _ => List.mem_append_left _) read
  refine Program.Always.bind (Program.Always.bind ((asks.weaken ?_).mono ?_))
  · rintro history command ⟨asksFor, read⟩ request isOpen
    exact ⟨stored, read, (asksFor request isOpen).1.trans same⟩
  · rintro history (failure | result) - <;> trivial

/-- `Forward` asks for a Pipe that was found under the name of the target's Pipe,
after it has resolved and checked the target. -/
theorem forwardDownstream_named {current : PipeSpec} (state : TraversalState)
    (isPipe : current.target.kind = .pipe) :
    (forwardDownstream prim json current state).Always
      (fun history command => ∀ request, command = .writeOpen request →
        ∃ next stored, ⟨.pipe current.target.string, .ok next⟩ ∈ history ∧
          next.validate = .ok () ∧ next.pipeID ∉ state.visitedIDs ∧
          ⟨.record next.ref.name, .ok stored⟩ ∈ history ∧
          request.pipeID = stored.pipeID) (fun _ _ => True) [] := by
  unfold forwardDownstream forward
  rw [isPipe]
  refine ⟨nofun, ?_⟩
  rintro (error | next)
  · trivial
  have read : (⟨.pipe current.target.string, .ok next⟩ : OpenerExchange) ∈
      [] ++ [⟨.pipe current.target.string, .ok next⟩] :=
    List.mem_singleton_self _
  dsimp only [Program.bind]
  split
  · trivial
  rename_i valid
  split
  · trivial
  rename_i fresh
  split
  · trivial
  have asks := (downstreamPipeOpener_named prim json next state
    ([] ++ [⟨.pipe current.target.string, .ok next⟩])).keeping
    (fun _ _ => List.mem_append_left _) read
  refine Program.Always.bind (Program.Always.bind ((asks.weaken ?_).mono ?_))
  · rintro history command ⟨asksFor, read⟩ request isOpen
    obtain ⟨stored, readRecord, same⟩ := asksFor request isOpen
    exact ⟨next, stored, read, valid, fresh, readRecord, same⟩
  · rintro history (error | session) - <;> trivial

/-- `runLocalPipe` selects a record that was read under the name of the target. -/
theorem startLocalPipe_named (binding : Except GoError RemotePipeBinding)
    (graph : PipeGraph) (spec : PipeSpec) :
    (startLocalPipe prim json binding graph spec).Always (fun _ _ => True)
      (fun history outcome => ∀ record, outcome = .ok (.scoped record) → spec.target.kind = .pipe ∧
        (∃ path, graph.resolveLogicalPath spec.ref defaultMaxPipeHops = .ok path) ∧
        ∃ stored, ⟨.record spec.target.name, .ok stored⟩ ∈ history ∧
          record.pipeID = stored.pipeID) [] := by
  unfold startLocalPipe
  split
  · intro _ failed
    cases failed
  split
  · intro _ failed
    cases failed
  split
  · intro _ failed
    cases failed
  split
  · intro _ failed
    cases failed
  refine Program.Always.bind (((verifiedRecord_named prim json _ []).weaken
    fun _ _ _ => trivial).mono ?_)
  rintro history (error | record) established
  · intro _ failed
    cases failed
  rintro _ same
  grind

/-- A connection asks for the Pipe of a record that was current before. -/
theorem serveLocalConnectionWithOpener_asks (spec : PipeSpec) (attempts : ℕ)
    (history : List LocalExchange) :
    (serveLocalConnectionWithOpener prim spec attempts).Always (fun history command => ∀ request,
        command = .opener (.writeOpen request) → ∃ record,
          ⟨.current, record⟩ ∈ history ∧ request.pipeID = record.pipeID)
      (fun _ _ => True) history := by
  induction attempts generalizing history with
  | zero => trivial
  | succ attempts ih =>
    refine ⟨nofun, fun record => ?_⟩
    have read : (⟨.current, record⟩ : LocalExchange) ∈ history ++ [⟨.current, record⟩] :=
      List.mem_append_right _ (List.mem_singleton_self _)
    refine Program.Always.bind (Program.Always.relabel LocalCommand.opener
      (fun _ response => response) (fun _ _ => rfl) _
      (openTunnel_asks prim record [spec.pipeID] defaultMaxPipeHops [])
      (List.append_nil _).symm ?_ ?_)
    · rintro asked command asks request same
      cases same
      exact ⟨record, List.mem_append_left _ read, (asks request rfl).1⟩
    · rintro asked (failure | result) -
      · dsimp only
        split
        · trivial
        refine ⟨nofun, ?_⟩
        rintro (error | _ | _)
        · trivial
        · trivial
        · exact ih _
      · trivial

end Opens

/-! ## The resolver -/

/-- A resolver changes only by `resolve`. -/
def RecordResolver.Becomes : RecordResolver → RecordResolver → Prop :=
  Relation.ReflTransGen fun r after => ∃ recovery now fetched,
    after = (r.resolve recovery now fetched).2

/-- A new record is one of the same Pipe. -/
theorem RecordResolver.resolve_pipeID (r : RecordResolver) (recovery : Bool)
    (now : Time) (fetched : Except GoError (List PipeRecord)) :
    (r.resolve recovery now fetched).2.record.pipeID = r.record.pipeID := by
  have select : ∀ r : RecordResolver, (r.select fetched).2.record.pipeID = r.record.pipeID := by
    intro r
    unfold RecordResolver.select
    split
    · rfl
    split
    · rfl
    rename_i candidate found
    split
    · rfl
    split
    · split <;> rfl
    · simpa using List.find?_some found
  grind [RecordResolver.resolve]

theorem RecordResolver.Becomes.pipeID {r after : RecordResolver}
    (becomes : r.Becomes after) : after.record.pipeID = r.record.pipeID := by
  induction becomes with
  | refl => rfl
  | tail _ step ih =>
    grind [RecordResolver.resolve_pipeID]

/-! ## Opened and checked -/

/-- The resolver of Pipes that `newPipeEngine` makes from the store. -/
def Store.pipeSpec (s : Store) (ref : Ref) : Except GoError PipeSpec :=
  (s.pipe ref.string).map (·.spec)

/-- Lookups are answered from these tables. -/
structure ReadsTables (store : Store) (discovery : Discovery) {σ : Type}
    (environment : (c : OpenerCommand) → σ → c.Response × σ) : Prop where
  pipe : ∀ identifier s, (environment (.pipe identifier) s).1 = (store.pipe identifier).map (·.spec)
  record : ∀ pipeID s, ∃ now, (environment (.record pipeID) s).1 = discovery.record pipeID now
  membership : ∀ scope s, (environment (.membership scope) s).1 = store.membership scope

/-- Local connections share a resolver, which other connections and the periodic
refresh may change at any time. -/
structure HostsResolver {τ : Type} (environment : (c : LocalCommand) → τ → c.Response × τ)
    (resolver : τ → RecordResolver) : Prop where
  current : ∀ s, (environment .current s).1 = (resolver s).record
  steps : ∀ c s, (resolver s).Becomes (resolver (environment c s).2)

/-- The requests for a Pipe that an opener writes. -/
def openRequests (exchanges : List OpenerExchange) : List OpenPipe :=
  exchanges.filterMap fun
    | ⟨.writeOpen request, _⟩ => some request
    | _ => none

/-- The requests for a Pipe that a local connection writes. -/
def localRequests (exchanges : List LocalExchange) : List OpenPipe :=
  exchanges.filterMap fun
    | ⟨.opener (.writeOpen request), _⟩ => some request
    | _ => none

theorem mem_openRequests {exchanges : List OpenerExchange} {request : OpenPipe}
    (written : request ∈ openRequests exchanges) : ∃ before response after,
      exchanges = before ++ ⟨.writeOpen request, response⟩ :: after := by
  obtain ⟨⟨command, response⟩, member, selected⟩ := List.mem_filterMap.mp written
  cases command with
  | writeOpen other =>
    cases selected
    obtain ⟨before, after, split⟩ := List.append_of_mem member
    exact ⟨before, response, after, split⟩
  | _ => cases selected

theorem mem_localRequests {exchanges : List LocalExchange} {request : OpenPipe}
    (written : request ∈ localRequests exchanges) : ∃ before response after,
      exchanges = before ++ ⟨.opener (.writeOpen request), response⟩ :: after := by
  obtain ⟨⟨command, response⟩, member, selected⟩ := List.mem_filterMap.mp written
  rcases command with _ | ⟨⟨⟩⟩ | _ <;> try cases selected
  obtain ⟨before, after, split⟩ := List.append_of_mem member
  exact ⟨before, response, after, split⟩

section Checked

variable {prim json} {store : Store} {discovery : Discovery} {σ τ : Type}

theorem ReadsTables.record_pipeID {environment : (c : OpenerCommand) → σ → c.Response × σ}
    (tables : ReadsTables store discovery environment) {α : Type}
    {program : OpenerProgram α} {s : σ} {name : GoString} {stored : Record}
    (read : ⟨.record name, .ok stored⟩ ∈ program.trace environment s) : stored.pipeID = name := by
  obtain ⟨somewhere, answer⟩ := Program.exists_of_mem_trace environment read
  obtain ⟨now, found⟩ := tables.record name somewhere
  exact Discovery.record_pipeID (found.symm.trans answer.symm)

/-- Whatever record is current during a connection, it is one of the Pipe whose
record was selected. -/
theorem HostsResolver.current_pipeID {environment : (c : LocalCommand) → τ → c.Response × τ}
    {resolver : τ → RecordResolver} (hosts : HostsResolver environment resolver)
    {α : Type} {program : LocalProgram α} {s : τ} {record : PipeRecord}
    (read : ⟨.current, record⟩ ∈ program.trace environment s) :
    record.pipeID = (resolver s).record.pipeID := by
  induction program generalizing s with
  | done value => cases read
  | call command next ih =>
    rcases List.mem_cons.mp read with same | later
    · cases same
      rw [hosts.current]
    · rw [ih _ later, (hosts.steps command s).pipeID]

end Checked

/-- **What is opened is what was checked only under its own name.**  Whatever the
tables contain: when `Forward` opens a remote Pipe, it has resolved its target to a
Pipe and checked that against the visited chain; the Pipe that is opened is this
one exactly if its name is its identifier.  When a connection of the scoped local
runtime opens a remote Pipe, after the path was validated, it is the Pipe that the
target resolves to exactly if the name of the target is its identifier. -/
theorem opened_is_checked_iff (store : Store) (discovery : Discovery) :
    (∀ {σ : Type} (environment : (c : OpenerCommand) → σ → c.Response × σ),
      ReadsTables store discovery environment →
      ∀ (s : σ) (current : PipeSpec) (state : TraversalState),
      current.target.kind = .pipe →
      ∀ request ∈ openRequests ((forwardDownstream prim json current state).trace environment s),
      ∃ next, store.pipeSpec current.target = .ok next ∧
        next.validate = .ok () ∧ next.pipeID ∉ state.visitedIDs ∧
        (request.pipeID = next.pipeID ↔ next.ref.name = next.pipeID)) ∧
    (∀ {σ τ : Type} (environment : (c : OpenerCommand) → σ → c.Response × σ),
      ReadsTables store discovery environment →
      ∀ (s : σ) (spec : PipeSpec) (graph : PipeGraph) (record : PipeRecord),
      graph.loadPipe = store.pipeSpec → store.pipeSpec spec.ref = .ok spec →
      ((startLocalPipe prim json (store.getRemotePipeBinding spec.target.name)
        graph spec).run environment s).1 = .ok (.scoped record) →
      ∀ (connected : (c : LocalCommand) → τ → c.Response × τ)
        (resolver : τ → RecordResolver), HostsResolver connected resolver →
      ∀ t, RecordResolver.Becomes ⟨record, .zero⟩ (resolver t) →
      ∀ request ∈ localRequests ((serveLocalConnection prim spec).trace connected t),
      ∃ next, store.pipeSpec spec.target = .ok next ∧
        (request.pipeID = next.pipeID ↔ spec.target.name = next.pipeID)) := by
  constructor
  · intro σ environment tables s current state isPipe request written
    obtain ⟨before, response, after, ran⟩ := mem_openRequests written
    have inTrace : ∀ {exchange}, exchange ∈ [] ++ before → exchange ∈
        (forwardDownstream prim json current state).trace environment s := by
      grind
    obtain ⟨next, stored, resolved, valid, fresh, read, same⟩ :=
      (forwardDownstream_named prim json state isPipe).trace environment s ran request rfl
    obtain ⟨somewhere, answer⟩ :=
      Program.exists_of_mem_trace environment (inTrace resolved)
    refine ⟨next, ?_, valid, fresh, ?_⟩
    · exact (tables.pipe _ somewhere).symm.trans answer.symm
    · rw [same, tables.record_pipeID (inTrace read)]
  · intro σ τ environment tables s spec graph record loads stored started connected
      resolver hosts t becomes request written
    obtain ⟨before, response, after, ran⟩ := mem_localRequests written
    obtain ⟨isPipe, ⟨path, resolved⟩, storedRecord, read, same⟩ :=
      (startLocalPipe_named prim json _ graph spec).run_post environment s record
        started
    obtain ⟨next, found⟩ := PipeGraph.resolveLogicalPath_next resolved
      (by rw [loads]; exact stored) isPipe
    obtain ⟨current, isCurrent, asks⟩ :=
      (serveLocalConnectionWithOpener_asks prim spec 2 []).trace connected t ran request rfl
    have opened : request.pipeID = spec.target.name := by
      have inTrace : (⟨.current, current⟩ : LocalExchange) ∈
          (serveLocalConnection prim spec).trace connected t := by
        grind
      rw [asks, hosts.current_pipeID inTrace, becomes.pipeID]
      exact same.trans (tables.record_pipeID read)
    refine ⟨next, by rw [← loads]; exact found, ?_⟩
    rw [opened]

/-! ### A Pipe named like another -/

namespace Sample

/-- A Pipe whose name is the identifier of the Pipe of the sample record. -/
def misnamedSpec : PipeSpec :=
  { ref := ⟨.pipe, pipeID⟩, pipeID := str "pip_other", scope := none,
    ingress := ⟨.tubo, [], [], [], []⟩, target := ⟨.service, str "web"⟩,
    visibility := .unlisted, access := .inviteOnly, allowReexport := false,
    createdAt := ⟨second, 0⟩, updatedAt := ⟨second, 0⟩ }

def forwardingSpec : PipeSpec :=
  { misnamedSpec with
    ref := ⟨.pipe, str "front"⟩, pipeID := str "pip_front",
    target := misnamedSpec.ref }

def memberStore : Store :=
  { pipes := (∅ : Table GoString PipeRow).insert misnamedSpec.ref.string
      ⟨misnamedSpec.pipeID, misnamedSpec, [], []⟩,
    memberships := (∅ : Table GoString Membership).insert scope.string
      ⟨str "member", [], rawURLEncode key, [], str "client.key"⟩ }

def memberRecords : Discovery :=
  ({} : Discovery).putRow (stored 1).key (stored 1).row

/-- A member whose lease is cached and whom every Pipe admits. -/
def memberAnswer : (c : OpenerCommand) → Unit → c.Response × Unit
  | .pipe identifier, s => ((memberStore.pipe identifier).map (·.spec), s)
  | .service _, s => (.error errNotFound, s)
  | .validateService _, s => (.ok (), s)
  | .dialService _, s => (.ok (), s)
  | .record id, s => (memberRecords.record id ⟨2 * second, 0⟩, s)
  | .membership scope, s => (memberStore.membership scope, s)
  | .now, s => (⟨2 * second, 0⟩, s)
  | .currentLease, s => (some (str "access", str "refresh"), s)
  | .requestLeasePair .., s => (.error errNotFound, s)
  | .setLeases .., s => (.ok (), s)
  | .putConnectLease .., s => (.ok (), s)
  | .startRefresh .., s => ((), s)
  | .dialPeer address, s => (.ok address, s)
  | .newStream _, s => (.ok (), s)
  | .readPrivate _, s => (.ok key, s)
  | .writeHello _, s => (.ok (), s)
  | .readServerHello, s => (.ok ⟨str "2.0", pipeID, str "nonce", []⟩, s)
  | .writeOpen _, s => (.ok (), s)
  | .readResult, s => (.ok { ok := true }, s)

theorem memberAnswer_tables : ReadsTables memberStore memberRecords memberAnswer where
  pipe _ _ := rfl
  record _ _ := ⟨_, rfl⟩
  membership _ _ := rfl

def misnamedRequest : OpenPipe :=
  ⟨pipeID, signProof unchecked key openProofPurpose [str "nonce", pipeID],
    str "access", [str "pip_front"], 8⟩

theorem misnamedRequest_written : misnamedRequest ∈
    openRequests ((forwardDownstream unchecked sequenceJSON forwardingSpec
      ⟨[str "pip_front"], 7, 8⟩).trace memberAnswer ()) := by
  decide +kernel

end Sample

/-- The Pipe that is opened has another identifier than the one that was resolved
and checked. -/
theorem opened_is_not_checked : ∃ request ∈ openRequests ((forwardDownstream Sample.unchecked
        Sample.sequenceJSON Sample.forwardingSpec
        ⟨[str "pip_front"], 7, 8⟩).trace Sample.memberAnswer ()),
      ReadsTables Sample.memberStore Sample.memberRecords Sample.memberAnswer ∧
      ∃ next, Sample.memberStore.pipeSpec Sample.forwardingSpec.target =
        .ok next ∧ request.pipeID ≠ next.pipeID :=
  ⟨Sample.misnamedRequest, Sample.misnamedRequest_written,
    Sample.memberAnswer_tables, Sample.misnamedSpec, by decide +kernel,
    by decide +kernel⟩

theorem opened_is_checked_iff_misnamed :
    ∃ next, Sample.memberStore.pipeSpec Sample.forwardingSpec.target =
        .ok next ∧ next.pipeID ∉ [str "pip_front"] ∧
      (Sample.misnamedRequest.pipeID = next.pipeID ↔ next.ref.name = next.pipeID) := by
  obtain ⟨next, resolved, -, fresh, same⟩ :=
    (opened_is_checked_iff Sample.unchecked Sample.sequenceJSON
      Sample.memberStore Sample.memberRecords).1 Sample.memberAnswer
      Sample.memberAnswer_tables () Sample.forwardingSpec
      ⟨[str "pip_front"], 7, 8⟩ rfl Sample.misnamedRequest
      Sample.misnamedRequest_written
  exact ⟨next, resolved, fresh, same⟩

end Tubo
