import Tubo.ExactAuthority.Authority
import Tubo.Store.Access

/-!
# Renewal of accepted access

Package `internal/exactauthority`, file `renew.go`, and the part of
`internal/runtime/renewal_handler.go` that calls it for one Pipe.

Renewal never sees the invite again.  It reads the accepted relationship, asks
whether the invite behind it is revoked, and compares the current epoch with the
accepted one — three separate steps on the database.  The lease carries the
epoch of the relationship.
-/

namespace Tubo

open Concurrency

variable (prim : Primitives)

/-- What one renewal works on. -/
structure RenewRequest where
  now : Time
  recipientPublic : GoString
  ownerBinding : GoString
  serverChallenge : GoString
  challengeProof : GoString
  keyFile : Except GoError Bytes
  leaseLifetime : Duration
  leaseRandom : Except GoError Bytes

/-- Steps 1 to 4 of `RenewAcceptedAccess`: the recipient key and the loaded
authority. -/
def renewChecks (pipeID : GoString) (r : RenewRequest) : Except GoError (Bytes × Authority) := do
  failIf (pipeID = [] ∨ maxPipeIDLen < pipeID.length)
    (errorsNew "exactauthority: renewing invalid pipe id")
  match publicFromString r.recipientPublic with
  | .error _ => .error (errorsNew
      "exactauthority: renewing invalid recipient public key")
  | .ok recipientPubKey =>
    match decodeOwnerBinding prim r.ownerBinding with
    | .error _ => .error (errorsNew "exactauthority: renewing binding invalid")
    | .ok binding =>
      match binding.verifyOwnerBinding prim with
      | .error _ => .error (errorsNew
          "exactauthority: renewing binding owner signature invalid")
      | .ok _ => do
          failIf (binding.pipeID ≠ pipeID)
            (errorsNew "exactauthority: renewing binding pipe mismatch")
          match publicFromString binding.owner with
          | .error _ => .error (errorsNew
              "exactauthority: renewing binding invalid owner key")
          | .ok ownerPub => do
              failIf (¬verifyPipeOwner prim pipeID ownerPub) (errorsNew
                  "exactauthority: renewing binding owner is not the Pipe owner")
              match loadAuthority prim r.keyFile binding with
              | .error _ => .error (errorsNew
                  "exactauthority: renewing authority key unavailable")
              | .ok auth => do
                  failIf (binding.authorityKey ≠ publicString (prim.publicKey auth.secret))
                    (errorsNew "exactauthority: renewing binding authority mismatch")
                  return (recipientPubKey, auth)

/-- Steps 7 and 8 of `RenewAcceptedAccess`: the possession proof, and the lease
at the accepted epoch (`NewAccessLeaseForReissuance`). -/
def renewMint (pipeID : GoString) (r : RenewRequest) (recipientPubKey : Bytes)
    (auth : Authority) (acceptedEpoch : ℕ) : Except GoError AccessLease := do
  failIf (r.serverChallenge = []) (errorsNew "exactauthority: missing renewal challenge")
  failIf (¬verifyProof prim recipientPubKey r.challengeProof renewProofPurpose
      [pipeID, r.serverChallenge])
    (errorsNew "exactauthority: invalid renewal possession proof")
  newAccessLease prim auth.secret r.recipientPublic pipeID r.now
    (if r.leaseLifetime ≤ 0 ∨ maxTTL < r.leaseLifetime then maxTTL
      else r.leaseLifetime)
    acceptedEpoch r.leaseRandom

/-- `RenewAcceptedAccess`, with the revocation adapter of the given scope. -/
def renewAcceptedAccess (scope pipeID : GoString) (r : RenewRequest) : StoreProgram AccessLease :=
  match renewChecks prim pipeID r with
  | .error error => .done (.error error)
  | .ok (recipientPubKey, auth) =>
    .call (.acceptedRelationship pipeID r.recipientPublic) fun
      | .error _ => .done (.error (errorsNew
          "exactauthority: renewal accepted state unavailable"))
      | .ok (none : Option (GoString × ℕ)) => .done (.error (errorsNew
          "exactauthority: no accepted binding for renewal"))
      | .ok (some (jti, acceptedEpoch)) =>
        .call (.isRevoked scope exactInviteSubject jti) fun
          | .error _ => .done (.error (errorsNew
              "exactauthority: renewal revocation state unavailable"))
          | .ok (revoked : Bool) =>
            if revoked then
              .done (.error (errorsNew "exactauthority: accepted relationship revoked"))
            else
              .call (.revocationEpoch scope pipeAccess pipeID) fun
                | .error _ => .done (.error (errorsNew
                    "exactauthority: renewal epoch state unavailable"))
                | .ok (currentEpoch : ℕ) =>
                  if currentEpoch ≠ acceptedEpoch then
                    .done (.error (errorsNew "exactauthority: renewal epoch stale"))
                  else
                    .done (renewMint prim pipeID r recipientPubKey auth acceptedEpoch)

/-- `exactRenewalHandler.handle` for the Pipe it serves, from the request on;
`requestPipeID` is the Pipe named in the request. -/
def handleRenewal (secretsDir pipeID requestPipeID : GoString)
    (r : RenewRequest) : StoreProgram AccessLease :=
  if requestPipeID.length = 0 ∨ 8192 < requestPipeID.length ∨
      r.recipientPublic.length = 0 ∨ 8192 < r.recipientPublic.length ∨
      r.ownerBinding.length = 0 ∨ 49152 < r.ownerBinding.length then
    .done (.error (errorsNew "invalid_request: field too large or empty"))
  else if requestPipeID ≠ pipeID then
    .done (.error (errorsNew "not_found"))
  else
    match keyPath secretsDir pipeID, decodeOwnerBinding prim r.ownerBinding with
    | .error _, _ => .done (.error (errorsNew "authority_unavailable"))
    | .ok _, .error _ => .done (.error (errorsNew "invalid_binding"))
    | .ok _, .ok _ =>
      if r.challengeProof.length = 0 ∨ 8192 < r.challengeProof.length then
        .done (.error (errorsNew "invalid_proof: field too large or empty"))
      else renewAcceptedAccess prim pipeID requestPipeID r

variable {pipeID : GoString} {r : RenewRequest} {lease : AccessLease} {s : Store}

/-- A renewed lease carries the accepted epoch, the Pipe and the recipient. -/
theorem renewMint_eq_ok {recipientPubKey : Bytes} {auth : Authority} {acceptedEpoch : ℕ}
    (minted : renewMint prim pipeID r recipientPubKey auth acceptedEpoch = .ok lease) :
    lease.accessEpoch = acceptedEpoch ∧ lease.audiencePipeID = pipeID ∧
      lease.subject = r.recipientPublic := by
  grind [bind_eq_ok, newAccessLease_eq_ok, renewMint]

/-! ## The exchanges of a renewal -/

/-- What a renewal asks the database, after which answers. -/
inductive RenewAsks (pipeID : GoString) (r : RenewRequest) :
    List StoreExchange → StoreCommand → Prop
  | relationship :
      RenewAsks pipeID r [] (.acceptedRelationship pipeID r.recipientPublic)
  | revoked (jti : GoString) (epoch : ℕ) :
      RenewAsks pipeID r [⟨.acceptedRelationship pipeID r.recipientPublic, .ok (some (jti, epoch))⟩]
        (.isRevoked pipeID exactInviteSubject jti)
  | epoch (jti : GoString) (epoch : ℕ) :
      RenewAsks pipeID r [⟨.acceptedRelationship pipeID r.recipientPublic, .ok (some (jti, epoch))⟩,
          ⟨.isRevoked pipeID exactInviteSubject jti, .ok false⟩]
        (.revocationEpoch pipeID pipeAccess pipeID)

/-- A renewed lease is at the epoch of the relationship that was read, whose
invite is not revoked and whose epoch is the current one. -/
structure RenewOwes (pipeID : GoString) (r : RenewRequest)
    (history : List StoreExchange) (lease : AccessLease) (jti : GoString) :
    Prop where
  audience : lease.audiencePipeID = pipeID
  exchanges : history = [⟨.acceptedRelationship pipeID r.recipientPublic,
        .ok (some (jti, lease.accessEpoch))⟩,
      ⟨.isRevoked pipeID exactInviteSubject jti, .ok false⟩,
      ⟨.revocationEpoch pipeID pipeAccess pipeID, .ok lease.accessEpoch⟩]

theorem renewAcceptedAccess_conduct (pipeID : GoString) (r : RenewRequest) :
    (renewAcceptedAccess prim pipeID pipeID r).Always (RenewAsks pipeID r)
      (Program.OnSuccess fun history lease =>
        ∃ jti, RenewOwes pipeID r history lease jti) [] := by
  unfold renewAcceptedAccess
  cases renewChecks prim pipeID r with
  | error error => exact Program.Always.failed _ _
  | ok checked =>
    refine ⟨.relationship, ?_⟩
    rintro (error | _ | ⟨jti, acceptedEpoch⟩)
    · exact Program.Always.failed _ _
    · exact Program.Always.failed _ _
    · refine ⟨.revoked jti acceptedEpoch, ?_⟩
      rintro (error | revoked)
      · exact Program.Always.failed _ _
      · cases revoked with
        | true => exact Program.Always.failed _ _
        | false =>
          refine ⟨.epoch jti acceptedEpoch, ?_⟩
          rintro (error | currentEpoch)
          · exact Program.Always.failed _ _
          · dsimp only
            split
            · exact Program.Always.failed _ _
            · rename_i current
              obtain rfl : currentEpoch = acceptedEpoch :=
                Classical.not_not.mp current
              intro lease minted
              obtain ⟨rfl, samePipe, -⟩ := renewMint_eq_ok prim minted
              exact ⟨jti, samePipe, rfl⟩

/-- **Exchanges of a renewal.**  The handler asks only if the request names the
Pipe it serves. -/
theorem handleRenewal_conduct (secretsDir pipeID requestPipeID : GoString) (r : RenewRequest) :
    (handleRenewal prim secretsDir pipeID requestPipeID r).Always
      (fun history command => requestPipeID = pipeID ∧ RenewAsks pipeID r history command)
      (Program.OnSuccess fun history lease => requestPipeID = pipeID ∧
        ∃ jti, RenewOwes pipeID r history lease jti) [] := by
  unfold handleRenewal
  split
  · exact Program.Always.failed _ _
  · split
    · exact Program.Always.failed _ _
    · rename_i samePipe
      obtain rfl : requestPipeID = pipeID := Classical.not_not.mp samePipe
      grind [Program.Always.failed, renewAcceptedAccess_conduct]

/-- On a database, a renewed lease rests on an accepted relationship there whose
invite is not revoked and whose epoch is the stored one. -/
theorem RenewOwes.reads {program : StoreProgram AccessLease} {jti : GoString}
    (owes : RenewOwes pipeID r (program.trace Store.execute s) lease jti) :
    s.acceptedRelationship pipeID r.recipientPublic = .ok (some (jti, lease.accessEpoch)) ∧
      s.isRevoked pipeID exactInviteSubject jti = false ∧
      s.revocationEpoch pipeID pipeAccess pipeID = lease.accessEpoch := by
  have answers := Program.trace_answers Store.execute program s
  rw [owes.exchanges] at answers
  obtain ⟨accepted, notRevoked, current, -⟩ := answers
  exact ⟨accepted, Except.ok.inj notRevoked, Except.ok.inj current⟩

theorem renewAcceptedAccess_run_ok
    (renewed : ((renewAcceptedAccess prim pipeID pipeID r).run Store.execute s).1 = .ok lease) :
    ∃ jti epoch, s.acceptedRelationship pipeID r.recipientPublic = .ok (some (jti, epoch)) ∧
      s.isRevoked pipeID exactInviteSubject jti = false ∧
      s.revocationEpoch pipeID pipeAccess pipeID = epoch := by
  obtain ⟨jti, owes⟩ := (renewAcceptedAccess_conduct prim pipeID r).run_post
    Store.execute s lease renewed
  exact ⟨jti, lease.accessEpoch, owes.reads⟩

theorem handleRenewal_run_ok {secretsDir requestPipeID : GoString}
    (renewed : ((handleRenewal prim secretsDir pipeID requestPipeID r).run
      Store.execute s).1 = .ok lease) :
    ∃ jti epoch, s.acceptedRelationship pipeID r.recipientPublic = .ok (some (jti, epoch)) ∧
      s.isRevoked pipeID exactInviteSubject jti = false ∧
      s.revocationEpoch pipeID pipeAccess pipeID = epoch := by
  obtain ⟨-, jti, owes⟩ :=
    (handleRenewal_conduct prim secretsDir pipeID requestPipeID r).run_post
      Store.execute s lease renewed
  exact ⟨jti, lease.accessEpoch, owes.reads⟩

end Tubo
