import Tubo.UseCase.Home
import Tubo.UseCase.Share

/-!
# Accepting an exact invite, and access to an accepted Pipe

Package `internal/usecase`, file `accept.go`, and the renewal client of
`internal/runtime/exact_renewal.go`.

Accepting an invite provisions the recipient key of the remote Pipe, redeems the
invite and stores a durable binding with the public half of that key.  From then
on access is obtained from the binding: a cached lease, or a renewal that proves
possession of the same key.  What the programs may do to a home is said once, by
`ConsumerAsks`: a binding is stored only with a key that was provisioned at the
path renewal will load it from, and no key and no Pipe is deleted.
-/

namespace Tubo

open Concurrency

variable (prim : Primitives)

/-- The configuration of `UseCases`: the secrets directory, and what `time.Now`
would return in a verification at the zero time. -/
structure UseCases where
  secrets : GoString
  clock : Time

/-- The recipient key of a remote Pipe, `connect-<pipe>.key`. -/
def recipientKeyFile (secrets pipeID : GoString) : GoString :=
  secrets ++ str "/pipes/connect-" ++ pipeID ++ str ".key"

theorem recipientKeyFile_ne_nil (secrets pipeID : GoString) :
    recipientKeyFile secrets pipeID ≠ [] :=
  List.append_ne_nil_of_right_ne_nil _ (by decide)

/-- The public text of a key. -/
def PrivateKey.publicString (key : PrivateKey) : GoString :=
  Tubo.publicString (prim.publicKey key.secret)

/-- `redemptionAddress`. -/
def redemptionAddress (invite : ExactInvite) : Except GoError GoString := do
  failIf (invite.binding = []) (errorsNew "invalid_input: invite carries no owner binding")
  match decodeOwnerBinding prim invite.binding with
  | .error _ =>
    .error (errorsNew "invalid_input: invite owner binding invalid")
  | .ok binding => do
      failIf (binding.redemptionPeers = [])
        (errorsNew "invalid_input: invite carries no redemption peer address")
      let first := binding.redemptionPeers.takeWhile (· ≠ 0x2C)
      failIf (blank first) (errorsNew "invalid_input: invite carries no redemption peer address")
      return trimSpace first

/-! ## Acceptance -/

/-- `acceptedInviteResult`. -/
structure AcceptedInvite where
  binding : RemotePipeBinding
  lease : AccessLease
  recipientPublic : GoString

/-- The binding of an accepted invite. -/
def acceptedBinding (invite : ExactInvite) (address recipientPublic : GoString)
    (now : Time) : RemotePipeBinding :=
  { remotePipeID := invite.audiencePipeID, authorityPublic := invite.issuer,
    ownerBinding := invite.binding, locator := address, recipientPublic,
    source := str "invite", createdAt := now, updatedAt := now }

/-- The end of `acceptExactInvite`: the lease is cached if that is possible. -/
def cacheLease (accepted : AcceptedInvite) : HomeProgram AcceptedInvite :=
  match encodeLease prim accepted.lease with
  | .error _ => .done (.ok accepted)
  | .ok text =>
    .call (.putAccessLeaseCache ⟨accepted.binding.remotePipeID, text,
        accepted.lease.expiresAt.utc⟩) fun _ =>
      .done (.ok accepted)

/-- `acceptExactInvite` after the redemption: the lease is verified, and the
binding is stored. -/
def acceptLease (u : UseCases) (invite : ExactInvite)
    (address recipientPublic : GoString) (lease : AccessLease) : HomeProgram AcceptedInvite :=
  match publicFromString invite.issuer with
  | .error error => .done (.error (authorizationDenied error))
  | .ok issuer =>
    .call .now fun now =>
      match lease.verify prim issuer recipientPublic invite.audiencePipeID now u.clock with
      | .error error => .done (.error (authorizationDenied error))
      | .ok () =>
        let binding := acceptedBinding invite address recipientPublic now
        match binding.validate with
        | .error error => .done (.error (authorizationDenied error))
        | .ok () =>
          .call (.putRemotePipeBinding binding) fun
            | .error error => .done (.error (persistenceError
                "accepted remote pipe binding" error))
            | .ok _ => cacheLease prim ⟨binding, lease, recipientPublic⟩

/-- `acceptExactInvite`.  The first reading of the clock, which nothing uses, is
left out. -/
def acceptExactInvite (u : UseCases) (invite : ExactInvite) : HomeProgram AcceptedInvite :=
  if blank u.secrets then
    .done (.error (errorsNew "invalid_input: secrets directory is not configured"))
  else
    .call (.provision (recipientKeyFile u.secrets invite.audiencePipeID)) fun
      | .error error =>
        .done (.error (persistenceError "recipient identity key" error))
      | .ok (key : PrivateKey) =>
        match redemptionAddress prim invite with
        | .error error => .done (.error error)
        | .ok address =>
          .call (.acquire address) fun
            | .error error => .done (.error
                (.wrap (str "pipe_unreachable: ") error []))
            | .ok _ =>
              .call (.redeem invite (key.publicString prim)) fun
                | .error error => .done (.error (authorizationDenied
                    (.wrap (str "redemption failed: ") error [])))
                | .ok (lease : AccessLease) =>
                  acceptLease prim u invite address (key.publicString prim) lease

/-- Decoding and verification of a presented invite, shared by both commands. -/
def presentedInvite (u : UseCases) (encoded : GoString) : HomeProgram ExactInvite :=
  match decodeInvite prim encoded with
  | .error error => .done (.error (authorizationDenied
      (.wrap (str "invalid exact invite: ") error [])))
  | .ok invite =>
    .call .now fun now =>
      match invite.verify prim now u.clock invite.audiencePipeID with
      | .error error => .done (.error (authorizationDenied error))
      | .ok () => .done (.ok invite)

/-- `AcceptExactInvite`. -/
def acceptInvite (u : UseCases) (encoded : GoString) : HomeProgram AcceptedInvite :=
  if blank encoded then
    .done (.error (errorsNew "invalid_input: accept requires an invite"))
  else
    (presentedInvite prim u encoded).andThen fun invite =>
      acceptExactInvite prim u invite

/-! ## Access through a binding -/

/-- `ExactRenewalClient.Renew`: the local checks, and the exchange with the
authority. -/
def renewalClient (secrets : GoString) (request : RenewalRequest) : HomeProgram AccessLease :=
  if request.pipeID = [] ∨ request.recipientPublic = [] ∨ request.ownerBinding = [] then
    .done (.error (errorsNew "exact_renewal: invalid request"))
  else
    .call (.load (recipientKeyFile secrets request.pipeID)) fun
      | .error error => .done (.error
          (.wrap (str "exact_renewal: recipient key unavailable: ") error []))
      | .ok (key : PrivateKey) =>
        if key.publicString prim ≠ request.recipientPublic then
          .done (.error (errorsNew "exact_renewal: recipient key does not match accepted binding"))
        else .call (.renew request) .done

/-- `AcceptedPipeAccess`. -/
structure AcceptedPipeAccess where
  remotePipeID : GoString
  locator : GoString
  authorityPublic : GoString
  accessLease : AccessLease

/-- The access that a lease gives through a binding. -/
def accessThrough (binding : RemotePipeBinding) (remotePipeID : GoString)
    (lease : AccessLease) : AcceptedPipeAccess :=
  ⟨remotePipeID, binding.locator, binding.authorityPublic, lease⟩

/-- The cached lease of a Pipe, if it still verifies. -/
def usableCachedLease (u : UseCases) (binding : RemotePipeBinding)
    (authorityPub : Bytes) (remotePipeID : GoString) (now : Time)
    (cached : Except GoError AccessLeaseCache) : Option AccessLease :=
  match cached with
  | .error _ => none
  | .ok cached =>
    match decodeLease prim cached.accessLease with
    | .error _ => none
    | .ok lease =>
      match lease.verify prim authorityPub binding.recipientPublic remotePipeID now u.clock with
      | .error _ => none
      | .ok () => some lease

/-- `AcquireAcceptedPipeAccess` from the renewal on. -/
def renewAccess (u : UseCases) (binding : RemotePipeBinding)
    (authorityPub : Bytes) (remotePipeID : GoString) : HomeProgram AcceptedPipeAccess :=
  .call (.acquire binding.locator) fun
    | .error error =>
      .done (.error (.wrap (str "pipe_unreachable: ") error []))
    | .ok _ =>
      (renewalClient prim u.secrets ⟨remotePipeID, binding.recipientPublic,
          binding.ownerBinding⟩).bind fun
        | .error error => .done (.error (authorizationDenied
            (.wrap (str "renewal failed: ") error [])))
        | .ok lease =>
          .call .now fun now =>
            match lease.verify prim authorityPub binding.recipientPublic
                remotePipeID now u.clock with
            | .error error => .done (.error (authorizationDenied
                (.wrap (str "renewed lease mismatch: ") error [])))
            | .ok () =>
              match encodeLease prim lease with
              | .error error => .done (.error
                  (persistenceError "encode renewed lease" error))
              | .ok text =>
                .call (.putAccessLeaseCache ⟨remotePipeID, text, lease.expiresAt.utc⟩) fun
                  | .error error => .done (.error
                      (persistenceError "access lease cache" error))
                  | .ok _ => .done (.ok
                      (accessThrough binding remotePipeID lease))

/-- `AcquireAcceptedPipeAccess`. -/
def acquireAcceptedPipeAccess (u : UseCases) (remotePipeID : GoString) :
    HomeProgram AcceptedPipeAccess :=
  if blank remotePipeID then
    .done (.error (errorsNew "invalid_input: acquire requires a remote pipe id"))
  else
    .call (.getRemotePipeBinding remotePipeID) fun
      | .error error => .done (.error
          (if error.is errNotFound then
            authorizationDenied (.new (str "no accepted binding for " ++ remotePipeID))
          else persistenceError "accepted remote pipe binding" error))
      | .ok (binding : RemotePipeBinding) =>
        match binding.validate with
        | .error error => .done (.error (authorizationDenied
            (.wrap (str "corrupt accepted binding for " ++ remotePipeID ++ str ": ") error [])))
        | .ok () =>
          match publicFromString binding.authorityPublic with
          | .error error => .done (.error (authorizationDenied
              (.wrap (str "invalid bound authority identity: ") error [])))
          | .ok authorityPub =>
            .call .now fun now =>
              .call (.getAccessLeaseCache remotePipeID) fun cached =>
                match usableCachedLease prim u binding authorityPub remotePipeID now cached with
                | some lease => .done (.ok
                    (accessThrough binding remotePipeID lease))
                | none =>
                  renewAccess prim u binding authorityPub remotePipeID

/-! ## What the programs may do to a home -/

/-- A binding is stored only with the public half of a key that was provisioned
at the path of the recipient key, and nothing is deleted.  The network is used
and the database is changed only where `resolved` holds, that is, after the
local part of a command. -/
def ConsumerAsks (secrets : GoString) (resolved : Prop)
    (history : List HomeExchange) : HomeCommand → Prop
  | .now | .provision _ | .load _ | .pipe _ | .getRemotePipeBinding _ => True
  | .putRemotePipeBinding b => resolved ∧ ∃ key : PrivateKey,
      ⟨.provision (recipientKeyFile secrets b.remotePipeID), .ok key⟩ ∈ history ∧
      b.recipientPublic = key.publicString prim
  | .acquire _ | .redeem .. | .renew _ | .putPipe .. => resolved
  | .getAccessLeaseCache _ | .putAccessLeaseCache _ => resolved
  | .removeFile _ | .deletePipe _ | .deleteService _ | .settleRun .. => False

/-- In every environment the program asks only what `ConsumerAsks` permits. -/
def ConsumerConduct {α : Type} (secrets : GoString) (resolved : Prop)
    (program : HomeProgram α) (history : List HomeExchange) : Prop :=
  program.Always (ConsumerAsks prim secrets resolved) (fun _ _ => True) history

variable (u : UseCases)

theorem cacheLease_conduct (accepted : AcceptedInvite) (history : List HomeExchange) :
    ConsumerConduct prim u.secrets True (cacheLease prim accepted) history := by
  unfold cacheLease
  cases encodeLease prim accepted.lease with
  | error error => trivial
  | ok text => exact ⟨trivial, fun _ => trivial⟩

theorem acceptLease_conduct {invite : ExactInvite} {key : PrivateKey}
    {history : List HomeExchange} (address : GoString) (lease : AccessLease) (provisioned :
      ⟨.provision (recipientKeyFile u.secrets invite.audiencePipeID), .ok key⟩ ∈ history) :
    ConsumerConduct prim u.secrets True
      (acceptLease prim u invite address (key.publicString prim) lease)
      history := by
  unfold acceptLease
  cases publicFromString invite.issuer with
  | error error => trivial
  | ok issuer =>
    refine ⟨trivial, ?_⟩
    intro now
    dsimp only
    cases lease.verify prim issuer (key.publicString prim) invite.audiencePipeID now u.clock with
    | error error => trivial
    | ok verified =>
      cases (acceptedBinding invite address (key.publicString prim) now).validate with
      | error error => trivial
      | ok valid =>
        refine ⟨⟨trivial, key, List.mem_append_left _ provisioned, rfl⟩, ?_⟩
        rintro (error | _)
        · trivial
        · exact cacheLease_conduct prim u _ _

theorem acceptExactInvite_conduct (invite : ExactInvite) (history : List HomeExchange) :
    ConsumerConduct prim u.secrets True (acceptExactInvite prim u invite)
      history := by
  unfold acceptExactInvite
  split
  · trivial
  · refine ⟨trivial, ?_⟩
    rintro (error | key)
    · trivial
    · dsimp only
      cases redemptionAddress prim invite with
      | error error => trivial
      | ok address =>
        refine ⟨trivial, ?_⟩
        rintro (error | _)
        · trivial
        · refine ⟨trivial, ?_⟩
          rintro (error | lease)
          · trivial
          · exact acceptLease_conduct prim u address lease (by simp)

theorem presentedInvite_conduct (resolved : Prop) (encoded : GoString)
    (history : List HomeExchange) :
    ConsumerConduct prim u.secrets resolved (presentedInvite prim u encoded)
      history := by
  unfold presentedInvite
  cases decodeInvite prim encoded with
  | error error => trivial
  | ok invite =>
    refine ⟨trivial, ?_⟩
    intro now
    dsimp only
    split <;> trivial

/-- A part that may fail, followed by another. -/
theorem ConsumerConduct.andThen {α β : Type} {secrets : GoString}
    {resolved : Prop} {first : HomeProgram α} {after : α → HomeProgram β}
    {history : List HomeExchange} (conduct : ConsumerConduct prim secrets resolved first history)
    (next : ∀ value later, ConsumerConduct prim secrets resolved (after value) later) :
    ConsumerConduct prim secrets resolved (first.andThen after) history := by
  refine Program.Always.bind (conduct.mono ?_)
  rintro later (error | value) -
  · trivial
  · exact next value later

theorem acceptInvite_conduct (encoded : GoString) :
    ConsumerConduct prim u.secrets True (acceptInvite prim u encoded) [] := by
  unfold acceptInvite
  split
  · trivial
  · exact (presentedInvite_conduct prim u True encoded []).andThen prim
      fun invite later => acceptExactInvite_conduct prim u invite later

theorem renewalClient_conduct (request : RenewalRequest) (history : List HomeExchange) :
    ConsumerConduct prim u.secrets True (renewalClient prim u.secrets request)
      history := by
  unfold renewalClient
  split
  · trivial
  · refine ⟨trivial, ?_⟩
    rintro (error | key)
    · trivial
    · dsimp only
      split
      · trivial
      · exact ⟨trivial, fun _ => trivial⟩

theorem renewAccess_conduct (binding : RemotePipeBinding)
    (authorityPub : Bytes) (remotePipeID : GoString) (history : List HomeExchange) :
    ConsumerConduct prim u.secrets True
      (renewAccess prim u binding authorityPub remotePipeID) history := by
  refine ⟨trivial, ?_⟩
  rintro (error | _)
  · trivial
  · refine Program.Always.bind ((renewalClient_conduct prim u _ _).mono ?_)
    rintro later (error | lease) -
    · trivial
    · refine ⟨trivial, ?_⟩
      intro now
      dsimp only
      split
      · trivial
      · cases encodeLease prim lease with
        | error error => trivial
        | ok text =>
          refine ⟨trivial, ?_⟩
          rintro (error | _) <;> trivial

theorem acquireAcceptedPipeAccess_conduct (remotePipeID : GoString) (history : List HomeExchange) :
    ConsumerConduct prim u.secrets True
      (acquireAcceptedPipeAccess prim u remotePipeID) history := by
  unfold acquireAcceptedPipeAccess
  split
  · trivial
  · refine ⟨trivial, ?_⟩
    rintro (error | binding)
    · trivial
    · dsimp only
      split
      · trivial
      · split
        · trivial
        · refine ⟨trivial, fun now => ⟨trivial, ?_⟩⟩
          intro cached
          dsimp only
          split
          · trivial
          · exact renewAccess_conduct prim u binding _ remotePipeID _

end Tubo
