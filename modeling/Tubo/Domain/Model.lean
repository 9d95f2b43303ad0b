import Tubo.Go.Time

/-!
# Resources

Package `internal/domain`: references, Scopes, Pipe specifications with their
validation, and the consumer-side record of an accepted remote Pipe.

The string enumerations of the source are inductive types.  A text outside the
enumeration is kept in a last constructor, because such values can be built and
are only rejected by `Validate`.
-/

namespace Tubo

/-- `fmt`'s `%q` on text without characters that need an escape. -/
def quote (value : GoString) : GoString :=
  str "\"" ++ value ++ str "\""

/-! ## References -/

/-- `ResourceKind`. -/
inductive ResourceKind
  | service
  | pipe
  | run
  | session
  | relay
  | authority
  | gateway
  | unsupported (text : GoString)
  deriving DecidableEq, Repr

/-- The text of a kind. -/
def ResourceKind.string : ResourceKind → GoString
  | .service => str "service"
  | .pipe => str "pipe"
  | .run => str "run"
  | .session => str "session"
  | .relay => str "relay"
  | .authority => str "authority"
  | .gateway => str "gateway"
  | .unsupported text => text

/-- `ResourceKind(text)`. -/
def ResourceKind.ofString (text : GoString) : ResourceKind :=
  if text = str "service" then .service
  else if text = str "pipe" then .pipe
  else if text = str "run" then .run
  else if text = str "session" then .session
  else if text = str "relay" then .relay
  else if text = str "authority" then .authority
  else if text = str "gateway" then .gateway
  else .unsupported text

/-- A character of `[a-z0-9]`. -/
def isNameStart (byte : UInt8) : Bool :=
  (0x61 ≤ byte && byte ≤ 0x7A) || (0x30 ≤ byte && byte ≤ 0x39)

/-- A character of `[a-z0-9@._-]`. -/
def isNameCharacter (byte : UInt8) : Bool :=
  isNameStart byte || byte == 0x40 || byte == 0x2E || byte == 0x5F ||
    byte == 0x2D

/-- `resourceNamePattern.MatchString`, that is
`^[a-z0-9][a-z0-9@._-]{0,62}$`. -/
def matchesResourceName : GoString → Bool
  | [] => false
  | first :: rest =>
    isNameStart first && rest.length ≤ 62 && rest.all isNameCharacter

/-- `Ref`. -/
structure Ref where
  kind : ResourceKind
  name : GoString
  deriving DecidableEq, Repr

namespace Ref

/-- `String`. -/
def string (r : Ref) : GoString :=
  if r.kind.string = [] ∧ r.name = [] then []
  else r.kind.string ++ str "/" ++ r.name

/-- `Validate`. -/
def validate (r : Ref) : Except GoError Unit :=
  match r.kind with
  | .unsupported text =>
    .error (.new (str "unsupported resource kind " ++ quote text))
  | kind =>
    failIf (¬matchesResourceName r.name)
      (.new (str "invalid " ++ kind.string ++ str " name " ++ quote r.name))

/-- `RequireKind`. -/
def requireKind (r : Ref) (kind : ResourceKind) : Except GoError Unit := do
  r.validate
  failIf (r.kind ≠ kind) (.new (str "resource " ++ r.string ++ str " has kind " ++
      quote r.kind.string ++ str ", want " ++ quote kind.string))

end Ref

/-- `NewRef`. -/
def newRef (kind : ResourceKind) (name : GoString) : Except GoError Ref := do
  let ref : Ref := ⟨kind, trimSpace name⟩
  ref.validate
  return ref

/-- `ParseRef`. -/
def parseRef (raw : GoString) : Except GoError Ref :=
  let trimmed := trimSpace raw
  let kind := trimmed.takeWhile (· ≠ 0x2F)
  let malformed : GoError :=
    .new (str "resource reference must be <kind>/<name>: " ++ quote raw)
  match trimmed.dropWhile (· ≠ 0x2F) with
  | [] => .error malformed
  | _ :: name =>
    if name.contains 0x2F then .error malformed
    else newRef (.ofString kind) name

/-- `ErrNotFound`. -/
def errNotFound : GoError := .sentinel (str "resource not found")

/-! ## Scopes and Pipes -/

/-- `Scope`. -/
structure Scope where
  cluster : GoString
  «namespace» : GoString
  deriving DecidableEq, Repr

/-- `Scope.String`. -/
def Scope.string (s : Scope) : GoString :=
  s.cluster ++ str "/" ++ s.namespace

/-- `Scope.Validate`. -/
def Scope.validate (s : Scope) : Except GoError Unit := do
  failIf (¬matchesResourceName s.cluster) (.new (str "invalid cluster name " ++ quote s.cluster))
  failIf (¬matchesResourceName s.namespace)
    (.new (str "invalid namespace name " ++ quote s.namespace))

/-- `IngressKind`. -/
inductive IngressKind
  | «local»
  | tubo
  | httpRoute
  | unsupported (text : GoString)
  deriving DecidableEq, Repr

/-- `PipeIngress`. -/
structure PipeIngress where
  kind : IngressKind
  listen : GoString
  host : GoString
  path : GoString
  protocol : GoString
  deriving DecidableEq, Repr

/-- `Visibility`. -/
inductive Visibility
  | «private»
  | unlisted
  | discoverable
  | unsupported (text : GoString)
  deriving DecidableEq, Repr

/-- `AccessPolicy`. -/
inductive AccessPolicy
  | inviteOnly
  | members
  | «public»
  | unsupported (text : GoString)
  deriving DecidableEq, Repr

/-- `PipeSpec`. -/
structure PipeSpec where
  ref : Ref
  pipeID : GoString
  scope : Option Scope
  ingress : PipeIngress
  target : Ref
  visibility : Visibility
  access : AccessPolicy
  allowReexport : Bool
  createdAt : Time
  updatedAt : Time
  deriving DecidableEq, Repr

namespace PipeSpec

/-- An error that begins with the reference of the Pipe. -/
def complaint (p : PipeSpec) (text : GoString) : GoError :=
  .new (str "pipe " ++ p.ref.string ++ text)

/-- The checks of `Validate` on the ingress. -/
def validateIngress (p : PipeSpec) : Except GoError Unit :=
  match p.ingress.kind with
  | .local =>
    failIf (blank p.ingress.listen) (p.complaint (str " local ingress requires listen"))
  | .tubo => .ok ()
  | .httpRoute =>
    failIf (blank p.ingress.host) (p.complaint (str " HTTP route ingress requires host"))
  | .unsupported text =>
    .error (p.complaint (str " has unsupported ingress " ++ quote text))

/-- `Validate`. -/
def validate (p : PipeSpec) : Except GoError Unit := do
  p.ref.requireKind .pipe
  match p.target.validate with
  | .error error =>
    .error (.wrap (str "pipe " ++ p.ref.string ++ str " target: ") error [])
  | .ok () => do
      failIf (p.target.kind ≠ .service ∧ p.target.kind ≠ .pipe)
        (p.complaint (str " target must be service/... or pipe/..."))
      failIf (p.target = p.ref) (p.complaint (str " cannot target itself"))
      match p.scope.map Scope.validate with
      | some (.error error) =>
        .error (.wrap (str "pipe " ++ p.ref.string ++ str " scope: ") error [])
      | _ => do
          p.validateIngress
          match p.visibility with
          | .unsupported text =>
            .error (p.complaint (str " has unsupported visibility " ++ quote text))
          | _ =>
            match p.access with
            | .unsupported text =>
              .error (p.complaint (str " has unsupported access policy " ++ quote text))
            | _ =>
              failIf (p.visibility = .discoverable ∧ p.ingress.kind ≠ .tubo) (p.complaint
                  (str " is discoverable but has no Tubo ingress"))

/-- `IsPublished`. -/
def isPublished (p : PipeSpec) : Bool :=
  p.ingress.kind == .tubo && p.visibility != .private

end PipeSpec

/-- The concrete service a Pipe may target; the fields that no modelled code
reads are left out. -/
structure ServiceSpec where
  ref : Ref
  kind : GoString
  target : GoString
  deriving DecidableEq, Repr

/-! ## The consumer side of an accepted Pipe -/

/-- `RemotePipeBinding`. -/
structure RemotePipeBinding where
  remotePipeID : GoString
  authorityPublic : GoString
  ownerBinding : GoString
  locator : GoString
  recipientPublic : GoString
  source : GoString
  createdAt : Time
  updatedAt : Time
  deriving DecidableEq, Repr

/-- `RemotePipeBinding.Validate`. -/
def RemotePipeBinding.validate (b : RemotePipeBinding) : Except GoError Unit := do
  failIf (¬hasPrefix b.remotePipeID (str "pip_") ∨ 256 < b.remotePipeID.length)
    (errorsNew "remote pipe binding invalid remote pipe id")
  failIf (b.authorityPublic = [] ∨ 4096 < b.authorityPublic.length)
    (errorsNew "remote pipe binding invalid authority public key")
  failIf (b.ownerBinding = [] ∨ 49152 < b.ownerBinding.length)
    (errorsNew "remote pipe binding invalid owner binding")
  failIf (b.locator = [] ∨ 4096 < b.locator.length)
    (errorsNew "remote pipe binding invalid locator")
  failIf (b.recipientPublic = [] ∨ 4096 < b.recipientPublic.length)
    (errorsNew "remote pipe binding invalid recipient public key")
  failIf (b.source = [] ∨ 64 < b.source.length) (errorsNew "remote pipe binding invalid source")

/-- `AccessLeaseCache`. -/
structure AccessLeaseCache where
  remotePipeID : GoString
  accessLease : GoString
  expiresAt : Time
  deriving DecidableEq, Repr

end Tubo
