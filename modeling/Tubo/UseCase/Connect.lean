import Tubo.UseCase.Accept

/-!
# Connecting to an exact Pipe

Package `internal/usecase`, file `connect.go`: `ConnectExact`.

The command works in three parts.  The local part resolves the target and the
recipient identity and decides whether an existing local Pipe is reused or a new
one is created; access is then established, by redeeming the invite or through
the accepted binding; and last the new Pipe is stored.
-/

namespace Tubo

variable (prim : Primitives)

/-- `ConnectExactInput`. -/
structure ConnectExactInput where
  invite : GoString
  remotePipeID : GoString
  localListen : GoString
  name : GoString

/-- `ConnectExactResult`. -/
structure ConnectExactResult where
  pipeRef : Ref
  pipeID : GoString
  targetPipeID : GoString
  localListen : GoString
  deriving DecidableEq, Repr

/-- `exactConnectConflict`. -/
def exactConnectConflict (existing : PipeSpec)
    (canonicalPipeID audiencePipeID requestedListen : GoString) :
    Except GoError Unit := do
  let refName := existing.ref.string
  failIf (existing.target.kind ≠ .pipe ∨ existing.target.name ≠ audiencePipeID)
    (.new (str "conflict: " ++ refName ++ str
      " already exists with a different target; remove it first or choose another --name"))
  failIf (existing.pipeID ≠ canonicalPipeID) (.new (str "conflict: " ++ refName ++ str
      " already exists with a different identity; remove it first"))
  failIf (existing.ingress.kind ≠ .local) (.new (str "conflict: " ++ refName ++ str
      " is not a local-ingress connection; remove it first"))
  failIf (existing.ingress.listen ≠ requestedListen) (.new (str "conflict: " ++ refName ++
      str " already connects this remote pipe on " ++
      existing.ingress.listen ++ str
      "; reuse that listener or remove the pipe before reconnecting on " ++
      requestedListen))

/-- `recipientRefFor`. -/
def recipientRefFor (pipeID name : GoString) : Except GoError Ref :=
  if name ≠ [] then newRef .pipe name
  else newRef .pipe ((str "connect-" ++ pipeID).take 63)

/-- `recipientPublicBytes`. -/
def recipientPublicBytes (text : GoString) : Bytes :=
  match publicFromString text with
  | .ok key => key
  | .error _ => []

/-- `PipeRepoAdapter.Get`, on the outcome of `Store.Pipe`. -/
def pipeRepoGet (identifier : GoString) :
    Except GoError PipeRow → Except GoError (PipeSpec × GoString)
  | .ok row => .ok (row.spec, row.ownerKeyFile)
  | .error error =>
    .error (.wrap (str "pipe " ++ identifier ++ str ": ") error [])

/-! ## The local part -/

/-- The checks of `ConnectExact` on its input. -/
def connectInputChecks (u : UseCases) (input : ConnectExactInput) : Except GoError Unit := do
  failIf (blank input.localListen)
    (errorsNew "invalid_input: connect requires a local listen address")
  failIf (blank u.secrets) (errorsNew "invalid_input: secrets directory is not configured")
  failIf (input.invite ≠ [] ∧ input.remotePipeID ≠ []) (errorsNew
      "invalid_input: connect accepts exactly one of --token or --remote")
  failIf (input.invite = [] ∧ input.remotePipeID = []) (errorsNew
      "invalid_input: connect requires --token <invite> or --remote <pipe-id>; see 'tubo connect --help'")

/-- The target Pipe and the recipient identity of a connection; `invite` is
present if the target comes from one. -/
structure Recipient where
  targetPipeID : GoString
  recipientPublic : GoString
  keyFile : GoString
  invite : Option ExactInvite

/-- Resolution of the target and the recipient identity. -/
def connectRecipient (u : UseCases) (input : ConnectExactInput) : HomeProgram Recipient :=
  if input.invite ≠ [] then
    (presentedInvite prim u input.invite).andThen fun invite =>
      .call (.provision (recipientKeyFile u.secrets invite.audiencePipeID)) fun
        | .error error =>
          .done (.error (persistenceError "recipient identity key" error))
        | .ok (key : PrivateKey) =>
          .done (.ok ⟨invite.audiencePipeID, key.publicString prim,
            recipientKeyFile u.secrets invite.audiencePipeID, some invite⟩)
  else
    .call (.load (recipientKeyFile u.secrets input.remotePipeID)) fun
      | .error _ => .done (.error (authorizationDenied
          (.new (str "no accepted recipient identity for " ++ input.remotePipeID))))
      | .ok (key : PrivateKey) =>
        .done (.ok ⟨input.remotePipeID, key.publicString prim,
          recipientKeyFile u.secrets input.remotePipeID, none⟩)

/-- The local Pipe of a connection. -/
def connectSpec (recipient : Recipient) (ref : Ref) (listen : GoString) (now : Time) : PipeSpec :=
  { ref,
    pipeID := pipeIDFromOwner prim
      (recipientPublicBytes recipient.recipientPublic),
    scope := none, ingress := ⟨.local, listen, [], [], []⟩,
    target := ⟨.pipe, recipient.targetPipeID⟩, visibility := .private,
    access := .inviteOnly, allowReexport := false, createdAt := now,
    updatedAt := now }

/-- The local Pipe a connection will have, and whether it has to be stored. -/
structure ConnectPlan where
  spec : PipeSpec
  keyFile : GoString
  upsert : Bool

/-- Reuse of an existing local Pipe. -/
def reusePipe (spec existing : PipeSpec) (keyFile : GoString)
    (input : ConnectExactInput) : Except GoError ConnectPlan := do
  exactConnectConflict existing spec.pipeID spec.target.name input.localListen
  return ⟨existing, keyFile, false⟩

theorem reusePipe_eq_ok {spec existing : PipeSpec} {keyFile : GoString}
    {input : ConnectExactInput} {plan : ConnectPlan}
    (reused : reusePipe spec existing keyFile input = .ok plan) : plan.upsert = false := by
  simp only [reusePipe, bind_eq_ok] at reused
  obtain ⟨-, -, reused⟩ := reused
  cases reused
  rfl

/-- The error of a nameless Pipe that would be renamed. -/
def errOtherName (existing : PipeSpec) : GoError :=
  .new (str "conflict: " ++ existing.ref.string ++ str
    " already connects this remote pipe; reuse it ('tubo start " ++
    existing.ref.string ++ str
    "') or remove it before choosing a different name")

/-- The resolution of the requested reference and of the canonical identifier
against the stored Pipes. -/
def connectPlan (input : ConnectExactInput) (recipient : Recipient)
    (spec : PipeSpec) : HomeProgram ConnectPlan :=
  .call (.pipe spec.ref.string) fun byRef =>
    match pipeRepoGet spec.ref.string byRef with
    | .ok (existing, keyFile) => .done (reusePipe spec existing keyFile input)
    | .error errRef =>
      if errRef.is errNotFound then
        .call (.pipe spec.pipeID) fun byID =>
          match pipeRepoGet spec.pipeID byID with
          | .ok (existing, keyFile) =>
            .done do
              let plan ← reusePipe spec existing keyFile input
              failIf (input.name ≠ []) (errOtherName existing)
              return plan
          | .error errID =>
            if errID.is errNotFound then
              .done (.ok ⟨spec, recipient.keyFile, true⟩)
            else .done (.error (persistenceError "pipe" errID))
      else .done (.error (persistenceError "pipe" errRef))

/-- `ConnectExact` up to the first use of the network. -/
def connectLocal (u : UseCases) (input : ConnectExactInput) :
    HomeProgram (Recipient × ConnectPlan) :=
  match connectInputChecks u input with
  | .error error => .done (.error error)
  | .ok () =>
    (connectRecipient prim u input).andThen fun recipient =>
      match recipientRefFor recipient.targetPipeID input.name with
      | .error error =>
        .done (.error (.wrap (str "invalid_input: ") error []))
      | .ok ref =>
        .call .now fun now =>
          (connectPlan input recipient (connectSpec prim recipient ref
            input.localListen now)).andThen fun plan =>
              .done (.ok (recipient, plan))

/-! ## Access and the Pipe -/

/-- `ConnectExact` through an accepted binding. -/
def connectAccepted (u : UseCases) (recipient : Recipient) : HomeProgram Unit :=
  .call (.getRemotePipeBinding recipient.targetPipeID) fun
    | .error error => .done (.error
        (if error.is errNotFound then
          authorizationDenied (.new (str "no accepted binding for " ++ recipient.targetPipeID ++ str
            "; redeem the invite first with 'tubo accept --token <invite>'"))
        else persistenceError "accepted remote pipe binding" error))
    | .ok (binding : RemotePipeBinding) =>
      if binding.recipientPublic ≠ recipient.recipientPublic then
        .done (.error (authorizationDenied (.new
          (str "recipient identity does not match accepted binding for " ++
            recipient.targetPipeID))))
      else
        (acquireAcceptedPipeAccess prim u recipient.targetPipeID).andThen fun _ => .done (.ok ())

/-- The verified access material of a connection. -/
def connectAccess (u : UseCases) (recipient : Recipient) : HomeProgram Unit :=
  match recipient.invite with
  | some invite =>
    (acceptExactInvite prim u invite).andThen fun _ => .done (.ok ())
  | none => connectAccepted prim u recipient

/-- The last part of `ConnectExact`. -/
def connectStore (recipient : Recipient) (plan : ConnectPlan) : HomeProgram ConnectExactResult :=
  let result : ConnectExactResult :=
    ⟨plan.spec.ref, plan.spec.pipeID, recipient.targetPipeID, plan.spec.ingress.listen⟩
  if plan.upsert then
    .call (.putPipe plan.spec plan.keyFile []) fun
      | .error error => .done (.error (persistenceError "local pipe" error))
      | .ok _ => .done (.ok result)
  else .done (.ok result)

/-- `ConnectExact`. -/
def connectExact (u : UseCases) (input : ConnectExactInput) : HomeProgram ConnectExactResult :=
  (connectLocal prim u input).andThen fun resolved =>
    (connectAccess prim u resolved.1).andThen fun _ =>
      connectStore resolved.1 resolved.2

/-! ## What a connection may do to a home -/

variable (u : UseCases) (input : ConnectExactInput)

theorem connectRecipient_conduct (resolved : Prop) (history : List HomeExchange) :
    ConsumerConduct prim u.secrets resolved (connectRecipient prim u input)
      history := by
  unfold connectRecipient
  split
  · refine (presentedInvite_conduct prim u resolved _ _).andThen prim ?_
    intro invite later
    refine ⟨trivial, ?_⟩
    rintro (error | key) <;> trivial
  · refine ⟨trivial, ?_⟩
    rintro (error | key) <;> trivial

theorem connectPlan_conduct (resolved : Prop) (recipient : Recipient) (spec : PipeSpec)
    (history : List HomeExchange) :
    ConsumerConduct prim u.secrets resolved (connectPlan input recipient spec)
      history := by
  refine ⟨trivial, ?_⟩
  intro byRef
  dsimp only
  split
  · trivial
  · split
    · refine ⟨trivial, ?_⟩
      intro byID
      dsimp only
      split
      · trivial
      · split <;> trivial
    · trivial

theorem connectLocal_conduct (resolved : Prop) (history : List HomeExchange) :
    ConsumerConduct prim u.secrets resolved (connectLocal prim u input)
      history := by
  unfold connectLocal
  split
  · trivial
  · refine (connectRecipient_conduct prim u input resolved _).andThen prim ?_
    intro recipient later
    split
    · trivial
    · refine ⟨trivial, ?_⟩
      intro now
      exact (connectPlan_conduct prim u input resolved _ _ _).andThen prim fun _ _ => trivial

theorem connectAccess_conduct (recipient : Recipient) (history : List HomeExchange) :
    ConsumerConduct prim u.secrets True (connectAccess prim u recipient)
      history := by
  unfold connectAccess
  split
  · exact (acceptExactInvite_conduct prim u _ _).andThen prim fun _ _ => trivial
  · refine ⟨trivial, ?_⟩
    rintro (error | binding)
    · trivial
    · dsimp only
      split
      · trivial
      · exact (acquireAcceptedPipeAccess_conduct prim u _ _).andThen prim fun _ _ => trivial

theorem connectStore_conduct (recipient : Recipient) (plan : ConnectPlan)
    (history : List HomeExchange) :
    ConsumerConduct prim u.secrets True (connectStore recipient plan)
      history := by
  unfold connectStore
  dsimp only
  split
  · refine ⟨trivial, ?_⟩
    rintro (error | _) <;> trivial
  · trivial

theorem connectExact_conduct : ConsumerConduct prim u.secrets True (connectExact prim u input) [] :=
  (connectLocal_conduct prim u input True []).andThen prim fun resolved later =>
      (connectAccess_conduct prim u resolved.1 later).andThen prim
        fun _ final => connectStore_conduct prim u resolved.1 resolved.2 final

end Tubo
