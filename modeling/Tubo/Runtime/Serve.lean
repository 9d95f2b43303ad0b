import Tubo.Engine.Traversal
import Tubo.Runtime.ExactAuthorizer

/-!
# The receiving boundary

Package `internal/runtime`, file `serve.go`: `tunnelServer.serve`, with the lazy
exact authorizer of `exact_authorizer.go` in place.

One call of `serve` handles one incoming stream.  Everything it does to the
outside — reading and writing frames, the clock, random bytes, the key file, the
database, dialing, the session — is a command, and the client is part of the
environment that answers.  So a statement about every environment is a statement
about every sequence of client frames.
-/

namespace Tubo

open Concurrency

variable (prim : Primitives)

/-! ## Frames -/

/-- `wire.ClientHello`. -/
structure ClientHello where
  version : GoString
  clientPublic : GoString
  capabilities : List GoString
  deriving DecidableEq, Repr

/-- `wire.ServerHello`. -/
structure ServerHello where
  version : GoString
  pipeID : GoString
  challenge : GoString
  capabilities : List GoString
  deriving DecidableEq, Repr

/-- `wire.OpenPipe`. -/
structure OpenPipe where
  pipeID : GoString
  challengeProof : GoString
  accessLease : GoString
  visitedPipeIDs : List GoString
  hopLimit : ℤ
  deriving DecidableEq, Repr

/-- `wire.OpenResult`. -/
structure OpenResult where
  ok : Bool
  sessionID : GoString := []
  protocol : GoString := []
  errorCode : GoString := []
  message : GoString := []
  retryClass : GoString := []
  deriving DecidableEq, Repr

/-! ## The server -/

/-- A loaded `ExactOpenAuthorizer`: it exists only for a Pipe whose key file can
be located. -/
structure LoadedAuthorizer (secretsDir pipeID : GoString) where
  leasePublic : Bytes
  path : GoString
  located : keyPath secretsDir pipeID = .ok path

/-- `tunnelServer`.  `secretsDir` is `none` if the server has no authorizer, and
otherwise belongs to its `LazyExactAuthorizer`; `hasOpener` says whether it has
a downstream opener. -/
structure TunnelServer where
  spec : PipeSpec
  service : ServiceSpec
  secretsDir : Option GoString
  hasOpener : Bool

/-- What `serve` does to the outside. -/
inductive ServeCommand
  | readHello
  | randomNonce
  | writeServerHello (hello : ServerHello)
  | readOpen
  | writeResult (result : OpenResult)
  | now
  | cachedAuthorizer (secretsDir pipeID : GoString)
  | loadKey (path : GoString)
  | store (command : StoreCommand)
  | engine (command : EngineCommand)
  | dial (service : ServiceSpec)
  | armTimer (expiresAt : Time)
  | stopTimer
  | transferTimer (expiresAt : Time)
  | randomSession
  | recordSession (sessionID : GoString)
  | newSession (sessionID : GoString)
  | setActiveCarrier
  | runServerSession
  | closeTarget

/-- What it is answered. -/
@[reducible]
def ServeCommand.Response : ServeCommand → Type
  | .readHello => Except GoError ClientHello
  | .randomNonce => Bytes
  | .writeServerHello _ => Except GoError Unit
  | .readOpen => Except GoError OpenPipe
  | .writeResult _ => Except GoError Unit
  | .now => Time
  | .cachedAuthorizer secretsDir pipeID =>
    Option (LoadedAuthorizer secretsDir pipeID)
  | .loadKey _ => Except GoError Bytes
  | .store command => command.Response
  | .engine command => command.Response
  | .dial _ => Except GoError Unit
  | .armTimer _ => Unit
  | .stopTimer => Unit
  | .transferTimer _ => Unit
  | .randomSession => Except GoError Bytes
  | .recordSession _ => Unit
  | .newSession _ => Except GoError Unit
  | .setActiveCarrier => Bool
  | .runServerSession => Unit
  | .closeTarget => Unit

abbrev ServeProgram (α : Type) :=
  Program ServeCommand ServeCommand.Response (Except GoError α)

abbrev ServeExchange := Exchange ServeCommand ServeCommand.Response

/-! ## The parts of `serve` -/

/-- `boundedStrings`. -/
def boundedStrings (limit : ℕ) (values : List GoString) : Bool :=
  values.all (·.length ≤ limit)

/-- `MaxLeaseBytes`. -/
def maxLeaseBytes : ℕ := 48 * 1024

def baseSessionCapabilities : List GoString :=
  [str "raw-duplex", str "half-close"]

/-- `authorizedOpenResult`. -/
def authorizedOpenResult (sessionID : GoString) : OpenResult :=
  { ok := true, sessionID := sessionID, protocol := str "2.0" }

/-- `openError`. -/
def openError {α : Type} (code message : String) : ServeProgram α :=
  .call (.writeResult
      { ok := false, errorCode := str code, message := str message,
        retryClass := str "terminal" }) fun _ =>
    .done (.error (.new (str code ++ str ": " ++ str message)))

/-- The handshake: the client's hello, the challenge for this stream, and the
open request. -/
def handshake (server : TunnelServer) : ServeProgram (ClientHello × GoString × OpenPipe) :=
  .call .readHello fun
    | .error error => .done (.error error)
    | .ok hello =>
      if hello.version ≠ str "2.0" ∨ 64 < hello.capabilities.length ∨
          ¬boundedStrings 8192 (hello.clientPublic :: hello.capabilities) then
        .done (.error (errorsNew "protocol mismatch or field exceeds limit"))
      else
        .call .randomNonce fun nonce =>
          let challenge := rawURLEncode nonce
          .call (.writeServerHello ⟨str "2.0", server.spec.pipeID, challenge,
              baseSessionCapabilities⟩) fun
            | .error error => .done (.error error)
            | .ok () =>
              .call .readOpen fun
                | .error error => .done (.error error)
                | .ok request => .done (.ok (hello, challenge, request))

/-- The checks on the open request before authorization: the code and the text
of the refusal. -/
def refuseOpen (server : TunnelServer) (request : OpenPipe) : Option (String × String) :=
  if ¬boundedStrings 8192 (request.pipeID :: request.challengeProof :: request.visitedPipeIDs) ∨
      maxLeaseBytes < request.accessLease.length then
    some ("invalid_input", "open field exceeds limit")
  else if request.pipeID ≠ server.spec.pipeID then
    some ("not_found", "pipe_id mismatch")
  else if request.hopLimit ≤ 0 ∨ defaultMaxPipeHops < request.hopLimit ∨
      request.hopLimit ≤ request.visitedPipeIDs.length then
    some ("hop_limit_exceeded", "logical hop limit exceeded")
  else if repeated (· == server.spec.pipeID) [] request.visitedPipeIDs then
    some ("loop_detected", "repeated pipe_id")
  else none

/-- The load of `LazyExactAuthorizer.AuthorizeOpen`, under its mutex: the key is
read once and kept. -/
def loadAuthorizer (secretsDir pipeID : GoString) : Program ServeCommand ServeCommand.Response
      (Option (LoadedAuthorizer secretsDir pipeID)) :=
  .call (.cachedAuthorizer secretsDir pipeID) fun
    | some cached => .done (some cached)
    | none =>
      match located : keyPath secretsDir pipeID with
      | .error _ => .done none
      | .ok path =>
        .call (.loadKey path) fun
          | .error _ => .done none
          | .ok secret =>
            .done (some ⟨prim.publicKey secret, path, located⟩)

/-- `LazyExactAuthorizer.AuthorizeOpen`. -/
def lazyAuthorizeOpen (secretsDir pipeID : GoString) (req : OpenRequest) :
    ServeProgram Authorization :=
  (loadAuthorizer prim secretsDir pipeID).bind fun
    | none => .done (.error (errorsNew
        "authorization denied: no open authorizer"))
    | some loaded =>
      (authorizeOpen prim loaded.leasePublic pipeID req).relabel .store fun _ response => response

/-- `authorizeOpenOnly`; the clock is not read again because `now` is not
zero. -/
def authorizeOpenOnly (server : TunnelServer) (clientPublic challenge : GoString)
    (request : OpenPipe) (now : Time) : ServeProgram Authorization :=
  match server.secretsDir with
  | none => .done (.error (errorsNew
      "authorization denied: no open authorizer"))
  | some secretsDir =>
    (lazyAuthorizeOpen prim secretsDir server.spec.pipeID
        ⟨request.pipeID, clientPublic, challenge, request.challengeProof,
          request.accessLease, now, now⟩).bind fun
      | .error _ => .done (.error (errorsNew "authorization denied"))
      | .ok auth =>
        if auth.pipeID ≠ request.pipeID ∨ auth.subject ≠ clientPublic ∨
            auth.expiresAt.isZero ∨ ¬auth.expiresAt.after now then
          .done (.error (errorsNew "authorization denied: invalid authorization result"))
        else .done (.ok auth)

/-- Resolution of the target: a Pipe through the engine, a service by dialing.
The error is the code and the text of the refusal. -/
def resolveTarget (server : TunnelServer) (request : OpenPipe) :
    Program ServeCommand ServeCommand.Response (Except (String × String) Unit) :=
  if server.spec.target.kind = .pipe then
    match fromWire request.visitedPipeIDs request.hopLimit with
    | .error _ =>
      .done (.error ("hop_limit_exceeded", "invalid traversal state"))
    | .ok state =>
      match state.advance server.spec.pipeID with
      | .error error =>
        if error.is errLoopDetected then
          .done (.error ("loop_detected", "repeated pipe_id"))
        else
          .done (.error ("hop_limit_exceeded", "logical hop limit exceeded"))
      | .ok advanced =>
        ((forward server.spec advanced server.hasOpener).relabel .engine
            fun _ response => response).bind fun
          | .error _ => .done (.error
              ("target_unreachable", "pipe target unavailable"))
          | .ok _ => .done (.ok ())
  else
    .call (.dial server.service) fun
      | .error _ =>
        .done (.error ("target_unreachable", "local target unavailable"))
      | .ok () => .done (.ok ())

/-- `errInitialCarrierTransferred`. -/
def errInitialCarrierTransferred : GoError :=
  .sentinel (str "initial carrier ownership transferred to session")

/-- What `serve` deferred once it has a target: the timer is stopped, and the
target closed unless a session owns it. -/
def deferred (owned : Bool) (result : Except GoError Unit) : ServeProgram Unit :=
  .call .stopTimer fun _ =>
    if owned then .done result
    else .call .closeTarget fun _ => .done result

/-- The rest of `serve` once the target is open: the session. -/
def serveSession (server : TunnelServer) (auth : Authorization) : ServeProgram Unit :=
  .call (.armTimer auth.expiresAt) fun _ =>
    .call .randomSession fun random =>
      match randomID "ses_" random with
      | .error error => deferred false (.error error)
      | .ok sessionID =>
        .call (.store (.isRevoked ((server.spec.scope.map Scope.string).getD
            []) (str "session") sessionID)) fun allowed =>
          match (allowed : Except GoError Bool) with
          | .ok false =>
            .call (.writeResult (authorizedOpenResult sessionID)) fun
              | .error error => deferred false (.error error)
              | .ok () =>
                .call (.recordSession sessionID) fun _ =>
                  .call (.newSession sessionID) fun
                    | .error error => deferred false (.error error)
                    | .ok () => activate sessionID
          | _ =>
            (openError "authorization_denied" "session revoked").bind (deferred false)
where
  /-- The session takes over the stream and the target. -/
  activate (sessionID : GoString) : ServeProgram Unit :=
    .call .setActiveCarrier fun installed =>
      if ¬installed then deferred false (.error errInitialCarrierTransferred)
      else
        .call (.transferTimer auth.expiresAt) fun _ =>
          .call .runServerSession fun _ =>
            .call (.recordSession sessionID) fun _ =>
              deferred true (.error errInitialCarrierTransferred)

/-- `tunnelServer.serve`. -/
def serve (server : TunnelServer) : ServeProgram Unit :=
  (handshake server).andThen fun (hello, challenge, request) =>
    match refuseOpen server request with
    | some (code, message) => openError code message
    | none =>
      .call .now fun clock =>
        (authorizeOpenOnly prim server hello.clientPublic challenge request clock.utc).bind fun
          | .error _ =>
            openError "authorization_denied" "authorization denied"
          | .ok auth =>
            (resolveTarget server request).bind fun
              | .error (code, message) => openError code message
              | .ok () => serveSession server auth

end Tubo
