import Tubo.ExactAuthority.Authority
import Tubo.Store.Access

/-!
# The exact open-authorizer

Package `internal/openauth` and package `internal/runtime`, file
`exact_authorizer.go`.  The authorizer decides whether a remote client may open
the Pipe: it verifies the presented lease and the possession proof without
touching shared state, then reads the database twice — is the lease revoked, and
has the pipe-access epoch moved past the lease.
-/

namespace Tubo

open Concurrency

variable (prim : Primitives)

/-- `openauth.OpenRequest`; `clock` is what `time.Now` would return. -/
structure OpenRequest where
  pipeID : GoString
  clientPublic : GoString
  challenge : GoString
  challengeProof : GoString
  accessLease : GoString
  now : Time
  clock : Time

/-- `openauth.Authorization`. -/
structure Authorization where
  pipeID : GoString
  subject : GoString
  issuer : GoString
  leaseID : GoString
  expiresAt : Time
  accessEpoch : ℕ
  deriving DecidableEq

/-- The only error the authorizer reveals. -/
def authorizationDeniedError : GoError := errorsNew "authorization denied"

/-- The checks of `ExactOpenAuthorizer.AuthorizeOpen` that need no database. -/
def authorizeChecks (leasePublic : Bytes) (req : OpenRequest) : Except GoError AccessLease :=
  match decodeLease prim req.accessLease with
  | .error _ => .error authorizationDeniedError
  | .ok lease =>
    match lease.verify prim leasePublic req.clientPublic req.pipeID req.now req.clock with
    | .error _ => .error authorizationDeniedError
    | .ok () => do
        failIf (lease.issuer ≠ publicString leasePublic)
          authorizationDeniedError
        match publicFromString req.clientPublic with
        | .error _ => .error authorizationDeniedError
        | .ok clientPub => do
            failIf (¬verifyProof prim clientPub req.challengeProof
                openProofPurpose [req.challenge, req.pipeID])
              authorizationDeniedError
            return lease

/-- `ExactOpenAuthorizer.AuthorizeOpen`, for the key and with the revocation
adapter of the given scope. -/
def authorizeOpen (leasePublic : Bytes) (scope : GoString)
    (req : OpenRequest) : StoreProgram Authorization :=
  match authorizeChecks prim leasePublic req with
  | .error error => .done (.error error)
  | .ok lease =>
    .call (.isRevoked scope accessLeaseSubject lease.jti) fun
      | .error _ => .done (.error authorizationDeniedError)
      | .ok (revoked : Bool) =>
        if revoked then .done (.error authorizationDeniedError)
        else
          .call (.revocationEpoch scope pipeAccess req.pipeID) fun
            | .error _ => .done (.error authorizationDeniedError)
            | .ok (currentEpoch : ℕ) =>
              if lease.accessEpoch < currentEpoch then
                .done (.error authorizationDeniedError)
              else
                .done (.ok ⟨req.pipeID, req.clientPublic, lease.issuer,
                  lease.jti, lease.expiresAt, lease.accessEpoch⟩)

/-- What the checks establish: an authentic lease for this Pipe and client, and
a proof by that client over the challenge. -/
structure Presented (leasePublic : Bytes) (req : OpenRequest) (lease : AccessLease) : Prop where
  decoded : decodeLease prim req.accessLease = .ok lease
  verified : lease.verify prim leasePublic req.clientPublic req.pipeID req.now req.clock = .ok ()
  authentic : lease.Authentic prim leasePublic req.clientPublic req.pipeID req.now req.clock
  proof : ∃ clientPub, publicFromString req.clientPublic = .ok clientPub ∧
    verifyProof prim clientPub req.challengeProof openProofPurpose
      [req.challenge, req.pipeID] = true

variable {leasePublic : Bytes} {req : OpenRequest}

theorem authorizeChecks_eq_ok {lease : AccessLease}
    (checked : authorizeChecks prim leasePublic req = .ok lease) :
    Presented prim leasePublic req lease := by
  unfold authorizeChecks at checked
  split at checked
  · cases checked
  · rename_i decoded decodes
    split at checked
    · cases checked
    · rename_i verified
      simp only [bind_eq_ok, failIf_eq_ok] at checked
      obtain ⟨-, -, checked⟩ := checked
      split at checked
      · cases checked
      · rename_i clientPub parsed
        simp only [bind_eq_ok, failIf_eq_ok, pure, Except.pure, Except.ok.injEq] at checked
        obtain ⟨-, proved, rfl⟩ := checked
        exact ⟨decodes, verified, AccessLease.verify_eq_ok prim verified,
          clientPub, parsed, by simpa using proved⟩

/-- A client without an identity key presents nothing. -/
theorem Presented.clientPublic_ne_nil
    {lease : AccessLease} (presented : Presented prim leasePublic req lease) :
    req.clientPublic ≠ [] := by
  grind [Presented.proof, publicFromString_nil]

/-! ## The exchanges of an authorization -/

/-- What an authorization asks the database, after which answers. -/
inductive AuthorizeAsks (scope : GoString) (req : OpenRequest)
    (lease : AccessLease) : List StoreExchange → StoreCommand → Prop
  | revoked : AuthorizeAsks scope req lease []
      (.isRevoked scope accessLeaseSubject lease.jti)
  | epoch : AuthorizeAsks scope req lease
      [⟨.isRevoked scope accessLeaseSubject lease.jti, .ok false⟩]
      (.revocationEpoch scope pipeAccess req.pipeID)

/-- The authorization carries the identity of the lease, which is not revoked
and has reached the epoch that was read. -/
structure AuthorizeOwes (leasePublic : Bytes) (scope : GoString)
    (req : OpenRequest) (history : List StoreExchange)
    (authorization : Authorization) (lease : AccessLease) (epoch : ℕ) :
    Prop where
  presented : Presented prim leasePublic req lease
  result : authorization = ⟨req.pipeID, req.clientPublic, lease.issuer,
    lease.jti, lease.expiresAt, lease.accessEpoch⟩
  reached : epoch ≤ lease.accessEpoch
  exchanges : history = [⟨.isRevoked scope accessLeaseSubject lease.jti, .ok false⟩,
      ⟨.revocationEpoch scope pipeAccess req.pipeID, .ok epoch⟩]

/-- **Exchanges of an authorization.** -/
theorem authorizeOpen_conduct (leasePublic : Bytes) (scope : GoString) (req : OpenRequest) :
    (authorizeOpen prim leasePublic scope req).Always
      (fun history command => ∃ lease, Presented prim leasePublic req lease ∧
        AuthorizeAsks scope req lease history command)
      (Program.OnSuccess fun history authorization => ∃ lease epoch,
        AuthorizeOwes prim leasePublic scope req history authorization lease epoch) [] := by
  unfold authorizeOpen
  cases checked : authorizeChecks prim leasePublic req with
  | error error => exact Program.Always.failed _ _
  | ok lease =>
    have presented := authorizeChecks_eq_ok prim checked
    refine ⟨⟨lease, presented, .revoked⟩, ?_⟩
    rintro (error | revoked)
    · exact Program.Always.failed _ _
    · cases revoked with
      | true => exact Program.Always.failed _ _
      | false =>
        refine ⟨⟨lease, presented, .epoch⟩, ?_⟩
        rintro (error | currentEpoch)
        · exact Program.Always.failed _ _
        · dsimp only
          split
          · exact Program.Always.failed _ _
          · rename_i reached
            rintro authorization ⟨⟩
            exact ⟨lease, currentEpoch, presented, rfl, Nat.le_of_not_lt reached, rfl⟩

/-- A lease that is let in on a database is not revoked there and has reached
the stored epoch. -/
theorem authorizeOpen_run_ok {scope : GoString} {s : Store} {authorization : Authorization}
    (authorized : ((authorizeOpen prim leasePublic scope req).run Store.execute
      s).1 = .ok authorization) :
    ∃ lease, Presented prim leasePublic req lease ∧
      s.isRevoked scope accessLeaseSubject lease.jti = false ∧
      s.revocationEpoch scope pipeAccess req.pipeID ≤ lease.accessEpoch := by
  obtain ⟨lease, epoch, presented, -, reached, exchanges⟩ :=
    (authorizeOpen_conduct prim leasePublic scope req).run_post Store.execute s
      authorization authorized
  have answers := Program.trace_answers Store.execute (authorizeOpen prim leasePublic scope req) s
  rw [List.nil_append] at exchanges
  rw [exchanges] at answers
  obtain ⟨notRevoked, current, -⟩ := answers
  refine ⟨lease, presented, Except.ok.inj notRevoked, ?_⟩
  rw [show s.revocationEpoch scope pipeAccess req.pipeID = epoch from
    Except.ok.inj current]
  exact reached

end Tubo
