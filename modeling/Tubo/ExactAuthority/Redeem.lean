import Tubo.ExactAuthority.Authority
import Tubo.Store.Access

/-!
# Redemption of an exact invite

Package `internal/exactauthority`, file `redeem.go`, and the part of
`internal/runtime/redemption_handler.go` that calls it for one Pipe.

The checks on the presented texts come first and touch no shared state.  Then
come three separate steps on the database: is the invite revoked, is the epoch
still the one the invite was minted at, and the redemption itself.  The lease is
minted at the epoch of the invite, whatever the epoch is by then.
-/

namespace Tubo

open Concurrency

variable (prim : Primitives)

/-- What one redemption works on: the texts sent by the recipient, the
challenge sent to it, the clock, the key file and the random bytes. -/
structure RedeemRequest where
  now : Time
  clock : Time
  encodedInvite : GoString
  recipientPublic : GoString
  serverChallenge : GoString
  challengeProof : GoString
  keyFile : Except GoError Bytes
  leaseLifetime : Duration
  sessionRandom : Except GoError Bytes
  leaseRandom : Except GoError Bytes

/-- Step 3 of `RedeemExactInvite`: the embedded owner binding. -/
def redeemBinding (invite : ExactInvite) : Except GoError OwnerBinding :=
  match decodeOwnerBinding prim invite.binding with
  | .error _ => .error (errorsNew
      "exactauthority: redeeming invite has invalid owner binding")
  | .ok binding =>
    match binding.verifyOwnerBinding prim with
    | .error _ => .error (errorsNew
        "exactauthority: redeeming invite owner binding invalid")
    | .ok _ =>
      match publicFromString binding.owner with
      | .error _ => .error (errorsNew
          "exactauthority: redeeming invite invalid owner key")
      | .ok ownerPub => do
          failIf (¬verifyPipeOwner prim invite.audiencePipeID ownerPub) (errorsNew
              "exactauthority: redeeming invite owner is not the Pipe owner")
          failIf (binding.authorityKey ≠ invite.issuer) (errorsNew
              "exactauthority: redeeming invite issuer not bound by owner")
          failIf (binding.pipeID ≠ invite.audiencePipeID) (errorsNew
              "exactauthority: redeeming invite binding pipe mismatch")
          return binding

/-- Steps 7 to 9 of `RedeemExactInvite`: the recipient key and its possession
proof. -/
def redeemProof (r : RedeemRequest) (invite : ExactInvite) : Except GoError Unit :=
  match publicFromString r.recipientPublic with
  | .error _ =>
    .error (errorsNew "exactauthority: invalid recipient public key")
  | .ok recipientPubKey => do
      failIf (r.serverChallenge = []) (errorsNew "exactauthority: missing server challenge")
      failIf (¬verifyProof prim recipientPubKey r.challengeProof
          redeemProofPurpose
          [invite.jti, invite.audiencePipeID, r.serverChallenge])
        (errorsNew "exactauthority: invalid challenge proof in redemption")

/-- Steps 2 to 9 of `RedeemExactInvite`: everything before the database is
read.  The result is the invite and the loaded authority. -/
def redeemChecks (r : RedeemRequest) : Except GoError (ExactInvite × Authority) := do
  let invite ← decodeInvite prim r.encodedInvite
  let binding ← redeemBinding prim invite
  match loadAuthority prim r.keyFile binding with
  | .error _ => .error (errorsNew
      "exactauthority: redeeming invite authority key unavailable")
  | .ok auth => do
      invite.verify prim r.now r.clock invite.audiencePipeID
      failIf (¬invite.oneTime) (errorsNew "exactauthority: invite must be one-time")
      redeemProof prim r invite
      return (invite, auth)

/-- The lifetime of the lease of step 11: the configured one, bounded by
`MaxTTL` and by what remains of the invite. -/
def redeemLifetime (r : RedeemRequest) (invite : ExactInvite) : Duration :=
  let configured :=
    if r.leaseLifetime ≤ 0 ∨ maxTTL < r.leaseLifetime then maxTTL
    else r.leaseLifetime
  let remaining := invite.expiresAt.sub r.now
  let capped :=
    if remaining < configured ∧ 0 < remaining then remaining else configured
  if capped ≤ 0 then maxTTL else capped

/-- `RedeemExactInvite`, with the revocation adapter of the given scope. -/
def redeemExactInvite (scope : GoString) (r : RedeemRequest) : StoreProgram AccessLease :=
  match redeemChecks prim r with
  | .error error => .done (.error error)
  | .ok (invite, auth) =>
    .call (.isRevoked scope exactInviteSubject invite.jti) fun
      | .error _ => .done (.error (errorsNew
          "exactauthority: revocation state unavailable"))
      | .ok (revoked : Bool) =>
        if revoked then
          .done (.error (errorsNew "exactauthority: invite revoked"))
        else
          .call (.revocationEpoch scope pipeAccess invite.audiencePipeID) fun
            | .error _ => .done (.error (errorsNew
                "exactauthority: epoch state unavailable"))
            | .ok (currentEpoch : ℕ) =>
              if currentEpoch ≠ invite.accessEpoch then
                .done (.error (errorsNew "exactauthority: invite epoch stale"))
              else
                redeemAccept r invite auth
where
  /-- Steps 10 and 11: the redemption transaction and the lease. -/
  redeemAccept (r : RedeemRequest) (invite : ExactInvite) (auth : Authority) :
      StoreProgram AccessLease :=
    match newSessionID r.sessionRandom with
    | .error error => .done (.error error)
    | .ok sessionID =>
      .call (.redeemInviteAndAccept invite.jti invite.audiencePipeID sessionID
          r.recipientPublic invite.accessEpoch r.now) fun
        | .error _ => .done (.error (errorsNew
            "exactauthority: redemption persistence failed"))
        | .ok (won : Bool) =>
          if ¬won then
            .done (.error (errorsNew "exactauthority: invite already redeemed by another"))
          else
            .done (newAccessLease prim auth.secret r.recipientPublic
              invite.audiencePipeID r.now (redeemLifetime r invite)
              invite.accessEpoch r.leaseRandom)

/-- `exactRedemptionHandler.handle` for the Pipe it serves, from the request on;
the frames of the exchange are the fields of the request. -/
def handleRedemption (secretsDir pipeID : GoString) (r : RedeemRequest) :
    StoreProgram AccessLease :=
  if 8192 < r.encodedInvite.length ∨ r.encodedInvite.length = 0 then
    .done (.error (errorsNew "invalid_request: invite too large or empty"))
  else
    match decodeInvite prim r.encodedInvite with
    | .error _ => .done (.error (errorsNew "invalid_invite"))
    | .ok invite =>
      if invite.audiencePipeID ≠ pipeID then
        .done (.error (errorsNew "not_found"))
      else if 8192 < r.recipientPublic.length ∨ 8192 < r.challengeProof.length then
        .done (.error (errorsNew "invalid_proof: field too large"))
      else
        match keyPath secretsDir pipeID, r.keyFile, decodeOwnerBinding prim invite.binding with
        | .error _, _, _ =>
          .done (.error (errorsNew "authority_unavailable"))
        | .ok _, .error _, _ =>
          .done (.error (errorsNew "authority_unavailable"))
        | .ok _, .ok _, .error _ =>
          .done (.error (errorsNew "invalid_invite"))
        | .ok _, .ok _, .ok _ => redeemExactInvite prim pipeID r

variable {r : RedeemRequest} {pipeID : GoString}

/-- What the checks establish about the presented invite. -/
theorem redeemChecks_eq_ok {invite : ExactInvite} {auth : Authority}
    (checked : redeemChecks prim r = .ok (invite, auth)) :
    decodeInvite prim r.encodedInvite = .ok invite ∧
      invite.verify prim r.now r.clock invite.audiencePipeID = .ok () := by
  unfold redeemChecks at checked
  simp only [bind_eq_ok] at checked
  obtain ⟨decoded, decodes, binding, -, checked⟩ := checked
  split at checked
  · cases checked
  · simp only [bind_eq_ok, pure, Except.pure, Except.ok.injEq, Prod.mk.injEq] at checked
    grind

/-! ## The exchanges of a redemption -/

/-- The invite presented in a request to redeem at a Pipe. -/
structure RedeemRequest.Presents (pipeID : GoString) (r : RedeemRequest)
    (invite : ExactInvite) : Prop where
  decoded : decodeInvite prim r.encodedInvite = .ok invite
  verified : invite.verify prim r.now r.clock invite.audiencePipeID = .ok ()
  audience : invite.audiencePipeID = pipeID

/-- The two checks on the database, as they answer when they pass. -/
def redeemReads (pipeID : GoString) (invite : ExactInvite) : List StoreExchange :=
  [⟨.isRevoked pipeID exactInviteSubject invite.jti, .ok false⟩,
    ⟨.revocationEpoch pipeID pipeAccess pipeID, .ok invite.accessEpoch⟩]

/-- What a redemption of an invite asks the database, after which answers. -/
inductive RedeemAsks (pipeID : GoString) (r : RedeemRequest)
    (invite : ExactInvite) : List StoreExchange → StoreCommand → Prop
  | revoked : RedeemAsks pipeID r invite []
      (.isRevoked pipeID exactInviteSubject invite.jti)
  | epoch : RedeemAsks pipeID r invite
      [⟨.isRevoked pipeID exactInviteSubject invite.jti, .ok false⟩]
      (.revocationEpoch pipeID pipeAccess pipeID)
  | accept (sessionID : GoString) :
      RedeemAsks pipeID r invite (redeemReads pipeID invite)
        (.redeemInviteAndAccept invite.jti pipeID sessionID r.recipientPublic
          invite.accessEpoch r.now)

/-- The lease of a redemption is for the Pipe and at the epoch of the invite,
and the transaction accepted the invite after the two checks. -/
structure RedeemOwes (pipeID : GoString) (r : RedeemRequest)
    (history : List StoreExchange) (lease : AccessLease) (invite : ExactInvite) : Prop where
  presents : r.Presents prim pipeID invite
  epoch : lease.accessEpoch = invite.accessEpoch
  audience : lease.audiencePipeID = pipeID
  accepted : ∃ sessionID, history = redeemReads pipeID invite ++
    [⟨.redeemInviteAndAccept invite.jti pipeID sessionID r.recipientPublic
      invite.accessEpoch r.now, .ok true⟩]

/-- **Exchanges of a redemption.**  In every environment the program asks what
`RedeemAsks` says, and owes what `RedeemOwes` says. -/
def RedeemConduct (pipeID : GoString) (r : RedeemRequest)
    (program : StoreProgram AccessLease) (history : List StoreExchange) : Prop :=
  program.Always (fun history command => ∃ invite, r.Presents prim pipeID invite ∧
      RedeemAsks pipeID r invite history command)
    (Program.OnSuccess fun history lease =>
      ∃ invite, RedeemOwes prim pipeID r history lease invite)
    history

theorem redeemAccept_conduct
    {invite : ExactInvite} (auth : Authority) (presents : r.Presents prim pipeID invite) :
    RedeemConduct prim pipeID r (redeemExactInvite.redeemAccept prim r invite auth)
      (redeemReads pipeID invite) := by
  unfold redeemExactInvite.redeemAccept
  cases newSessionID r.sessionRandom with
  | error error => exact Program.Always.failed _ _
  | ok sessionID =>
    refine ⟨⟨invite, presents, ?_⟩, ?_⟩
    · rw [presents.audience]
      exact .accept sessionID
    · rintro (error | won)
      · exact Program.Always.failed _ _
      · cases won with
        | false => exact Program.Always.failed _ _
        | true =>
          intro lease minted
          obtain ⟨sameEpoch, samePipe, -⟩ :=
            newAccessLease_eq_ok prim minted
          refine ⟨invite, presents, sameEpoch, samePipe.trans presents.audience, sessionID, ?_⟩
          rw [presents.audience]

theorem redeemExactInvite_conduct
    (audience : ∀ invite, decodeInvite prim r.encodedInvite = .ok invite →
      invite.audiencePipeID = pipeID) :
    RedeemConduct prim pipeID r (redeemExactInvite prim pipeID r) [] := by
  unfold redeemExactInvite
  cases checked : redeemChecks prim r with
  | error error => exact Program.Always.failed _ _
  | ok result =>
    obtain ⟨invite, auth⟩ := result
    obtain ⟨decoded, verified⟩ := redeemChecks_eq_ok prim checked
    have presents : r.Presents prim pipeID invite :=
      ⟨decoded, verified, audience invite decoded⟩
    refine ⟨⟨invite, presents, .revoked⟩, ?_⟩
    rintro (error | revoked)
    · exact Program.Always.failed _ _
    · cases revoked with
      | true => exact Program.Always.failed _ _
      | false =>
        refine ⟨⟨invite, presents, ?_⟩, ?_⟩
        · rw [presents.audience]
          exact .epoch
        · rintro (error | currentEpoch)
          · exact Program.Always.failed _ _
          · dsimp only
            split
            · exact Program.Always.failed _ _
            · rename_i current
              obtain rfl : currentEpoch = invite.accessEpoch :=
                Classical.not_not.mp current
              rw [presents.audience]
              exact redeemAccept_conduct prim auth presents

theorem handleRedemption_conduct (secretsDir pipeID : GoString) (r : RedeemRequest) :
    RedeemConduct prim pipeID r (handleRedemption prim secretsDir pipeID r) [] := by
  unfold handleRedemption
  split
  · exact Program.Always.failed _ _
  · cases presented : decodeInvite prim r.encodedInvite with
    | error error => exact Program.Always.failed _ _
    | ok invite =>
      dsimp only
      split
      · exact Program.Always.failed _ _
      · rename_i samePipe
        split
        · exact Program.Always.failed _ _
        · split
          · exact Program.Always.failed _ _
          · exact Program.Always.failed _ _
          · exact Program.Always.failed _ _
          · grind [redeemExactInvite_conduct]

/-- An invite that is redeemed on a database is not revoked there, and its epoch
is the stored one. -/
theorem handleRedemption_run_ok {secretsDir : GoString} {s : Store} {lease : AccessLease}
    (redeemed : ((handleRedemption prim secretsDir pipeID r).run Store.execute s).1 = .ok lease) :
    ∃ invite, decodeInvite prim r.encodedInvite = .ok invite ∧ invite.audiencePipeID = pipeID ∧
      s.isRevoked pipeID exactInviteSubject invite.jti = false ∧
      s.revocationEpoch pipeID pipeAccess pipeID = invite.accessEpoch := by
  obtain ⟨invite, presents, -, -, sessionID, exchanges⟩ :=
    (handleRedemption_conduct prim secretsDir pipeID r).run_post Store.execute s lease redeemed
  have answers := Program.trace_answers Store.execute (handleRedemption prim secretsDir pipeID r) s
  rw [List.nil_append] at exchanges
  rw [exchanges] at answers
  obtain ⟨notRevoked, current, -⟩ := answers
  exact ⟨invite, presents.decoded, presents.audience, Except.ok.inj notRevoked,
    Except.ok.inj current⟩

end Tubo
