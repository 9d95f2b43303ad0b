import Tubo.ExactPath.Fence
import Tubo.Runtime.Serve

/-!
# What gets past the receiving boundary

A target is dialed, a downstream Pipe opened or a success reported only for a
client that was admitted: it presented an Access Lease of the local authority
for this Pipe and this client, the lease was good by the database and the clock,
and the client proved possession of its key over the challenge of this very
stream.  `AdmittedOpen` spells this out, and `serve_admits` says it of every
execution of `serve`, whatever client, database, key file and network answer.

The guarantee is assembled along the code: the handshake fixes the first
exchanges, the checks on the request bound the visited list, the authorizer
establishes the facts about the lease.  From there on everything is permitted,
so the rest of `serve` needs no inspection (`Program.Always.of_persistent`).
-/

namespace Tubo

open Concurrency

variable (prim : Primitives) (server : TunnelServer)

/-- The exchanges of a handshake, up to the clock reading. -/
def handshakeExchanges (hello : ClientHello) (nonce : Bytes)
    (request : OpenPipe) (clock : Time) : List ServeExchange :=
  [⟨.readHello, .ok hello⟩, ⟨.randomNonce, nonce⟩,
    ⟨.writeServerHello ⟨str "2.0", server.spec.pipeID, rawURLEncode nonce,
      baseSessionCapabilities⟩, .ok ()⟩,
    ⟨.readOpen, .ok request⟩, ⟨.now, clock⟩]

/-- The key of the local Exact Authority: loaded before, or read from the key
file of the Pipe during these exchanges. -/
def LocalAuthorityKey (exchanges : List ServeExchange) (key : Bytes) : Prop :=
  ∃ secretsDir, server.secretsDir = some secretsDir ∧
    ((∃ cached, ⟨.cachedAuthorizer secretsDir server.spec.pipeID,
        some cached⟩ ∈ exchanges ∧ key = cached.leasePublic) ∨
      ∃ path secret, keyPath secretsDir server.spec.pipeID = .ok path ∧
        ⟨.loadKey path, .ok secret⟩ ∈ exchanges ∧
        key = prim.publicKey secret)

/-- What the authorizer establishes about the lease of a request.  `answers` are
the exchanges with key file and database. -/
structure AdmittedLease (hello : ClientHello) (nonce : Bytes)
    (request : OpenPipe) (clock : Time) (key : Bytes) (lease : AccessLease)
    (answers : List ServeExchange) : Prop where
  authority : LocalAuthorityKey prim server answers key
  decoded : decodeLease prim request.accessLease = .ok lease
  kind : lease.version = credentialVersion ∧ lease.type = accessLeaseType
  signed : lease.SignedBy prim key
  issuer : lease.issuer = publicString key
  audience : lease.audiencePipeID = server.spec.pipeID
  subject : lease.subject = hello.clientPublic
  unexpired : clock.instant < lease.expiresAt.instant
  notRevoked : ⟨.store (.isRevoked server.spec.pipeID accessLeaseSubject
    lease.jti), .ok false⟩ ∈ answers
  epoch : ∃ current ≤ lease.accessEpoch, ⟨.store (.revocationEpoch server.spec.pipeID pipeAccess
      server.spec.pipeID), .ok current⟩ ∈ answers
  proof : ∃ clientKey, publicFromString hello.clientPublic = .ok clientKey ∧
    verifyProof prim clientKey request.challengeProof openProofPurpose
      [rawURLEncode nonce, server.spec.pipeID] = true

/-- What the checks on a request establish about its path. -/
structure AdmittedPath (request : OpenPipe) : Prop where
  pipe : request.pipeID = server.spec.pipeID
  nodup : request.visitedPipeIDs.Nodup
  fresh : server.spec.pipeID ∉ request.visitedPipeIDs
  short : (request.visitedPipeIDs.length : ℤ) < request.hopLimit
  limit : request.hopLimit ≤ 8

/-- The history of a stream that was admitted. -/
def AdmittedOpen (history : List ServeExchange) : Prop :=
  ∃ hello nonce request clock key lease answers,
    history = handshakeExchanges server hello nonce request clock ++ answers ∧
      AdmittedPath server request ∧
      AdmittedLease prim server hello nonce request clock key lease answers

/-- The commands that expose something to the client: dialing the local target,
opening the downstream Pipe, and an OK result. -/
def Exposes : ServeCommand → Prop
  | .dial _ => True
  | .engine (.dialService _) => True
  | .engine (.openDownstream ..) => True
  | .writeResult result => result.ok = true
  | _ => False

/-- Nothing is exposed before the stream is admitted. -/
def Guarded (history : List ServeExchange) (command : ServeCommand) : Prop :=
  Exposes command → AdmittedOpen prim server history

variable {key nonce : Bytes} {hello : ClientHello} {request : OpenPipe}
  {history : List ServeExchange}

theorem LocalAuthorityKey.append {exchanges : List ServeExchange}
    (isLocal : LocalAuthorityKey prim server exchanges key) (more : List ServeExchange) :
    LocalAuthorityKey prim server (exchanges ++ more) key := by
  obtain ⟨secretsDir, configured, source⟩ := isLocal
  refine ⟨secretsDir, configured, ?_⟩
  grind

theorem AdmittedLease.more {clock : Time} {lease : AccessLease} {answers : List ServeExchange}
    (admitted : AdmittedLease prim server hello nonce request clock key lease
      answers) (exchange : ServeExchange) :
    AdmittedLease prim server hello nonce request clock key lease (answers ++ [exchange]) := by
  obtain ⟨current, reached, read⟩ := admitted.epoch
  exact { admitted with
    authority := admitted.authority.append prim server _
    notRevoked := List.mem_append_left _ admitted.notRevoked
    epoch := ⟨current, reached, List.mem_append_left _ read⟩ }

theorem AdmittedOpen.more (admitted : AdmittedOpen prim server history) (exchange : ServeExchange) :
    AdmittedOpen prim server (history ++ [exchange]) := by
  obtain ⟨hello, nonce, request, clock, key, lease, answers, rfl, path, admitted⟩ := admitted
  exact ⟨hello, nonce, request, clock, key, lease, answers ++ [exchange],
    List.append_assoc _ _ _, path, admitted.more prim server exchange⟩

/-! ## Along the code -/

/-- A refusal exposes nothing. -/
theorem openError_guarded {α : Type} (code message : String) :
    (openError code message : ServeProgram α).Always (Guarded prim server)
      (fun _ _ => True) history := by
  refine ⟨?_, fun _ => trivial⟩
  intro exposes
  cases exposes

/-- After a successful handshake the history is exactly that handshake. -/
theorem handshake_guarded : (handshake server).Always (Guarded prim server)
      (fun history outcome => ∀ hello challenge request, outcome = .ok (hello, challenge, request) →
        ∃ nonce, challenge = rawURLEncode nonce ∧ ∀ clock, history ++ [⟨.now, clock⟩] =
            handshakeExchanges server hello nonce request clock) [] := by
  refine ⟨fun exposes => exposes.elim, ?_⟩
  rintro (error | hello)
  · intro _ _ _ failed
    cases failed
  · dsimp only
    split
    · intro _ _ _ failed
      cases failed
    · refine ⟨fun exposes => exposes.elim, fun nonce => ?_⟩
      refine ⟨fun exposes => exposes.elim, ?_⟩
      rintro (error | _)
      · intro _ _ _ failed
        cases failed
      · refine ⟨fun exposes => exposes.elim, ?_⟩
        rintro (error | request)
        · intro _ _ _ failed
          cases failed
        · intro _ _ _ succeeded
          cases succeeded
          exact ⟨nonce, rfl, fun _ => rfl⟩

/-- A request that is not refused has an admitted path. -/
theorem refuseOpen_eq_none (accepted : refuseOpen server request = none) :
    AdmittedPath server request := by
  unfold refuseOpen at accepted
  split at accepted
  · cases accepted
  · split at accepted
    · cases accepted
    · rename_i samePipe
      split at accepted
      · cases accepted
      · rename_i hops
        split at accepted
        · cases accepted
        · rename_i loopFree
          rw [Bool.not_eq_true, repeated_eq_false] at loopFree
          obtain ⟨nodup, others⟩ := loopFree
          unfold defaultMaxPipeHops at hops
          refine ⟨Classical.not_not.mp samePipe, nodup, ?_, by omega, by omega⟩
          intro member
          simpa using (others _ member).2

/-- A loaded authorizer has the key of the local authority. -/
theorem loadAuthorizer_guarded {secretsDir : GoString}
    (configured : server.secretsDir = some secretsDir) (history : List ServeExchange) :
    (loadAuthorizer prim secretsDir server.spec.pipeID).Always (Guarded prim server)
      (fun later outcome => ∀ loaded, outcome = some loaded →
        ∃ answers, later = history ++ answers ∧
          LocalAuthorityKey prim server answers loaded.leasePublic)
      history := by
  refine ⟨fun exposes => exposes.elim, ?_⟩
  rintro (_ | cached)
  · dsimp only
    split
    · intro _ failed
      cases failed
    · rename_i path located
      refine ⟨fun exposes => exposes.elim, ?_⟩
      rintro (error | secret)
      · intro _ failed
        cases failed
      · intro loaded isLoaded
        obtain rfl := Option.some.inj isLoaded
        exact ⟨_, List.append_assoc _ _ _, secretsDir, configured, Or.inr ⟨path, secret, located,
            List.mem_append_right _ (List.mem_singleton_self _), rfl⟩⟩
  · intro loaded isLoaded
    obtain rfl := Option.some.inj isLoaded
    exact ⟨_, rfl, secretsDir, configured, Or.inl ⟨cached, List.mem_singleton_self _, rfl⟩⟩

/-- A success of the authorizer rests on a verified lease and two reads of the
database. -/
theorem authorizeOpen_guarded (key : Bytes) (req : OpenRequest) (history : List ServeExchange) :
    ((authorizeOpen prim key server.spec.pipeID req).relabel
        ServeCommand.store fun _ response => response).Always
      (Guarded prim server)
      (fun later outcome => ∀ auth, outcome = .ok auth →
        ∃ lease current, Presented prim key req lease ∧ current ≤ lease.accessEpoch ∧
          later = history ++ [⟨.store (.isRevoked server.spec.pipeID accessLeaseSubject
                lease.jti), .ok false⟩,
              ⟨.store (.revocationEpoch server.spec.pipeID pipeAccess
                req.pipeID), .ok current⟩]) history := by
  refine Program.Always.relabel ServeCommand.store (fun _ response => response)
    (fun _ _ => rfl) history
    (authorizeOpen_conduct prim key server.spec.pipeID req)
    (List.append_nil _).symm (fun _ _ _ exposes => exposes.elim) ?_
  intro asked outcome owes auth authorized
  obtain ⟨lease, current, presented, -, reached, rfl⟩ := owes auth authorized
  exact ⟨lease, current, presented, reached, rfl⟩

/-- An authorized request has an admitted lease. -/
theorem authorizeOpenOnly_guarded (clock : Time) (samePipe : request.pipeID = server.spec.pipeID)
    (history : List ServeExchange) :
    (authorizeOpenOnly prim server hello.clientPublic (rawURLEncode nonce)
        request clock.utc).Always (Guarded prim server)
      (fun later outcome => ∀ auth, outcome = .ok auth →
        ∃ key lease answers, later = history ++ answers ∧
          AdmittedLease prim server hello nonce request clock key lease answers) history := by
  unfold authorizeOpenOnly
  cases configured : server.secretsDir with
  | none =>
    intro _ failed
    cases failed
  | some secretsDir =>
    refine Program.Always.bind (Program.Always.bind
      ((loadAuthorizer_guarded prim server configured history).mono ?_))
    rintro later (_ | loaded) established
    · intro _ failed
      cases failed
    · obtain ⟨loading, rfl, isLocal⟩ := established loaded rfl
      refine (authorizeOpen_guarded prim server loaded.leasePublic _ (history ++ loading)).mono ?_
      rintro later (error | auth) established
      · intro _ failed
        cases failed
      · dsimp only
        split
        · intro _ failed
          cases failed
        · intro _ _
          obtain ⟨lease, current, presented, reached, rfl⟩ :=
            established auth rfl
          -- Neither the Pipe nor the client is empty, so the lease is bound
          -- to both.
          have named : request.pipeID ≠ [] := by
            rw [samePipe]
            exact keyPath_pipeID_ne_nil loaded.located
          have identified := presented.clientPublic_ne_nil
          refine ⟨loaded.leasePublic, lease, _, List.append_assoc _ _ _, ?_⟩
          exact {
            authority := isLocal.append prim server _
            decoded := presented.decoded
            kind := presented.authentic.kind
            signed := presented.authentic.signed
            issuer := presented.authentic.issuer
            audience := (presented.authentic.audience named).trans samePipe
            subject := presented.authentic.subject identified
            unexpired := by
              have unexpired := presented.authentic.unexpired
              rwa [AccessLease.verificationTime, ite_self] at unexpired
            notRevoked := List.mem_append_right _ List.mem_cons_self
            epoch := by
              grind
            proof := by
              obtain ⟨clientKey, parsed, proved⟩ := presented.proof
              rw [← samePipe]
              exact ⟨clientKey, parsed, proved⟩ }

/-- `serve` is guarded in every environment. -/
theorem serve_guarded : (serve prim server).Always (Guarded prim server) (fun _ _ => True) [] := by
  refine Program.Always.bind ((handshake_guarded prim server).mono ?_)
  rintro history (error | ⟨hello, challenge, request⟩) established
  · trivial
  · obtain ⟨nonce, rfl, exchanged⟩ := established hello challenge request rfl
    dsimp only
    cases refused : refuseOpen server request with
    | some refusal => exact openError_guarded prim server _ _
    | none =>
      have path := refuseOpen_eq_none server refused
      refine ⟨fun exposes => exposes.elim, fun clock => ?_⟩
      rw [exchanged clock]
      refine Program.Always.bind ((authorizeOpenOnly_guarded prim server clock path.pipe _).mono ?_)
      rintro later (error | auth) established
      · exact openError_guarded prim server _ _
      · obtain ⟨key, lease, answers, rfl, admitted⟩ := established auth rfl
        -- The stream is admitted, so whatever follows may expose.
        have start : AdmittedOpen prim server
            (handshakeExchanges server hello nonce request clock ++ answers) :=
          ⟨hello, nonce, request, clock, key, lease, answers, rfl, path, admitted⟩
        refine Program.Always.mono (Program.Always.of_persistent
          (fun _ exchange admitted => admitted.more prim server exchange)
          ?_ start) fun _ _ _ => trivial
        exact fun _ _ admitted _ => admitted

/-- **The receiving boundary.**  In every execution of `serve`, against any
client, database, key file, clock and network: whenever a local target is
dialed, a downstream Pipe is opened or an OK result is written, the exchanges
before that are those of an admitted stream. -/
theorem serve_admits {σ : Type} (environment : (c : ServeCommand) → σ → c.Response × σ) (state : σ)
    {before after : List ServeExchange} {exchange : ServeExchange}
    (ran : (serve prim server).trace environment state = before ++ exchange :: after)
    (exposes : Exposes exchange.command) : AdmittedOpen prim server before := by
  have guarded := (serve_guarded prim server).trace environment state ran
  exact guarded exposes

/-! ### A stream that is admitted -/

def plainServer : TunnelServer :=
  { spec := plainSpec,
    service := ⟨⟨.service, str "web"⟩, str "tcp", str "tcp://localhost:80"⟩,
    secretsDir := some (str "secrets"), hasOpener := false }

/-- The recipient of the toy run opens the Pipe with its lease of epoch 0. -/
def plainClient : (c : ServeCommand) → Unit → c.Response × Unit
  | .readHello, s => (.ok ⟨str "2.0", plainPublic recipientSecret, []⟩, s)
  | .randomNonce, s => ([], s)
  | .writeServerHello _, s => (.ok (), s)
  | .readOpen, s =>
    (.ok ⟨plainPipeID, rawURLEncode recipientSecret, plainText 0, [], 1⟩, s)
  | .writeResult _, s => (.ok (), s)
  | .now, s => (dawn, s)
  | .cachedAuthorizer _ _, s => (none, s)
  | .loadKey _, s => (.ok authoritySecret, s)
  | .store command, s => ((Store.execute command plainStore).1, s)
  | .engine (.resolveService _), s => (.error errNotFound, s)
  | .engine (.resolvePipe _), s => (.error errNotFound, s)
  | .engine (.validateService _), s => (.error errNotFound, s)
  | .engine (.dialService _), s => (.error errNotFound, s)
  | .engine (.openDownstream _ _), s => (.error errNotFound, s)
  | .dial _, s => (.ok (), s)
  | .armTimer _, s => ((), s)
  | .stopTimer, s => ((), s)
  | .transferTimer _, s => ((), s)
  | .randomSession, s => (.ok [], s)
  | .recordSession _, s => ((), s)
  | .newSession _, s => (.ok (), s)
  | .setActiveCarrier, s => (true, s)
  | .runServerSession, s => ((), s)
  | .closeTarget, s => ((), s)

theorem serve_admits_plain : ∃ before after, (serve plain plainServer).trace plainClient () =
        before ++ ⟨.dial plainServer.service, .ok ()⟩ :: after ∧
      AdmittedOpen plain plainServer before :=
  ⟨((serve plain plainServer).trace plainClient ()).take 9,
    ((serve plain plainServer).trace plainClient ()).drop 10, rfl,
    serve_admits plain plainServer plainClient () rfl trivial⟩

end Tubo
