import Tubo.Cli.Revoke
import Tubo.ExactPath.Fence

/-!
# `revoke pipe-access` and the exact path

The exact path of a Pipe reads one row of `revocations`: scope and subject are
both the Pipe identifier.  The `revoke` command computes the row it writes on
its own, from what the user typed.  `RevokeAligned` is the condition under which
the two agree: the Pipe is named by its identifier, or it has no Scope.

* If they agree, every credential of the Pipe from before the command is refused
  from then on (`AccessWorld.Fenced`).
* If they do not, the command writes a row that the exact path never reads, and
  every operation on the exact path answers as before
  (`Store.AgreesOn.outcome`).
-/

namespace Tubo

open Concurrency

variable (prim : Primitives)

/-! ## What the exact path of a Pipe reads -/

/-- The commands that the operations on the exact path of `pipeID` issue. -/
def InScope (pipeID : GoString) : StoreCommand → Prop
  | .isRevoked scope _ _ => scope = pipeID
  | .revocationEpoch scope _ _ => scope = pipeID
  | .redeemInviteAndAccept .. => True
  | .acceptedRelationship .. => True
  | _ => False

section InScope

variable {pipeID : GoString}

variable {history : List StoreExchange} {command : StoreCommand}

theorem AuthorizeAsks.inScope {req : OpenRequest} {lease : AccessLease}
    (asks : AuthorizeAsks pipeID req lease history command) : InScope pipeID command := by
  cases asks with
  | revoked => rfl
  | epoch => rfl

theorem RedeemAsks.inScope {r : RedeemRequest} {invite : ExactInvite}
    (asks : RedeemAsks pipeID r invite history command) : InScope pipeID command := by
  cases asks with
  | revoked => rfl
  | epoch => rfl
  | accept sessionID => trivial

theorem RenewAsks.inScope {r : RenewRequest} (asks : RenewAsks pipeID r history command) :
    InScope pipeID command := by
  cases asks with
  | relationship => trivial
  | revoked jti epoch => rfl
  | epoch jti epoch => rfl

end InScope

/-- Two databases look the same to the exact path of `pipeID`. -/
structure Store.AgreesOn (pipeID : GoString) (s t : Store) : Prop where
  revocations : ∀ key : RevocationKey, key.scope = pipeID →
    s.revocations.lookup key = t.revocations.lookup key
  redemptions : s.inviteRedemptions = t.inviteRedemptions
  relationships : s.acceptedExactRelationships = t.acceptedExactRelationships

namespace Store.AgreesOn

variable {pipeID : GoString} {s t : Store}

theorem redeemInviteAndAccept (agrees : s.AgreesOn pipeID t)
    (jti audience sessionID clientPublic : GoString) (epoch : ℕ) (now : Time) :
    (commit s (s.redeemInviteAndAccept jti audience sessionID clientPublic epoch now)).1 =
      (commit t (t.redeemInviteAndAccept jti audience sessionID clientPublic epoch now)).1 ∧
    (commit s (s.redeemInviteAndAccept jti audience sessionID clientPublic
        epoch now)).2.AgreesOn pipeID
      (commit t (t.redeemInviteAndAccept jti audience sessionID clientPublic epoch now)).2 := by
  unfold Store.redeemInviteAndAccept
  cases Store.redemptionArguments jti audience sessionID clientPublic with
  | error error => exact ⟨rfl, agrees⟩
  | ok _ =>
    rw [← agrees.redemptions]
    cases present : s.inviteRedemptions.lookup ⟨jti, audience⟩ with
    | some row =>
      have sameClient : t.redemptionClient jti audience = s.redemptionClient jti audience := by
        unfold Store.redemptionClient
        rw [agrees.redemptions]
      simp only [Table.insertOrIgnore_some _ present, bind, Except.bind, sameClient]
      cases s.redemptionClient jti audience with
      | error error => exact ⟨rfl, agrees⟩
      | ok client =>
        by_cases other : client ≠ clientPublic
        · simp only [failIf, if_pos other]
          exact ⟨rfl, agrees⟩
        · simp only [failIf, if_neg other]
          exact ⟨rfl, agrees⟩
    | none =>
      simp only [Table.insertOrIgnore_none _ present, bind, Except.bind]
      by_cases large : int64Size ≤ epoch
      · simp only [failIf, if_pos large]
        exact ⟨rfl, agrees⟩
      · simp only [failIf, if_neg large]
        refine ⟨rfl, agrees.revocations, rfl, ?_⟩
        simp only [pure, Except.pure, commit, Store.putRelationship]
        rw [agrees.relationships]

/-- Every command in scope is answered alike. -/
theorem execute (agrees : s.AgreesOn pipeID t) {c : StoreCommand} (inScope : InScope pipeID c) :
    (Store.execute c s).1 = (Store.execute c t).1 ∧
      (Store.execute c s).2.AgreesOn pipeID (Store.execute c t).2 := by
  cases c with
  | isRevoked scope subjectType subjectJTI =>
    refine ⟨?_, agrees⟩
    simp only [Store.execute, Store.isRevoked]
    rw [agrees.revocations ⟨scope, subjectType, subjectJTI⟩ inScope]
  | revocationEpoch scope subjectType subjectJTI =>
    refine ⟨?_, agrees⟩
    simp only [Store.execute, Store.revocationEpoch]
    rw [agrees.revocations ⟨scope, subjectType, subjectJTI⟩ inScope]
  | redeemInviteAndAccept jti audience sessionID clientPublic epoch now =>
    exact agrees.redeemInviteAndAccept _ _ _ _ _ _
  | acceptedRelationship audience clientPublic =>
    refine ⟨?_, agrees⟩
    simp only [Store.execute, Store.acceptedRelationship]
    rw [agrees.relationships]
  | _ => exact inScope.elim

/-- An operation on the exact path answers alike. -/
theorem outcome (agrees : s.AgreesOn pipeID t) {α : Type} {program : StoreProgram α}
    {permitted : List StoreExchange → StoreCommand → Prop}
    {post : List StoreExchange → Except GoError α → Prop}
    (conduct : program.Always permitted post [])
    (inScope : ∀ history command, permitted history command → InScope pipeID command) :
    (program.run Store.execute s).1 = (program.run Store.execute t).1 :=
  ((conduct.weaken inScope).run_agree
    (fun _ _ _ allowed related => related.execute allowed) agrees).1

end Store.AgreesOn

/-! ## The row the command writes -/

/-- The two ways to name a Pipe on the command line: by its reference, which the
database resolves, or by its identifier. -/
inductive NamesPipe (s : Store) (row : PipeRow) : GoString → Prop
  | byRef {id : GoString} (isRef : hasPrefix id (str "pipe/") = true)
      (found : s.pipe id = .ok row) : NamesPipe s row id
  | byID : NamesPipe s row row.spec.pipeID

/-- The command writes the row that the exact path reads. -/
def RevokeAligned (row : PipeRow) (id : GoString) : Prop :=
  id = row.spec.pipeID ∨ row.spec.scope = none

/-- A Pipe identifier is not a reference. -/
theorem hasPrefix_pipe_of_identified {pipeID : GoString}
    (identified : validPipeIDComponent pipeID = true) : hasPrefix pipeID (str "pipe/") = false := by
  unfold validPipeIDComponent at identified
  simp only [Bool.and_eq_true] at identified
  obtain ⟨⟨isID, -⟩, -⟩ := identified
  rw [Bool.eq_false_iff]
  intro isRef
  rw [hasPrefix, List.isPrefixOf_iff_prefix] at isRef isID
  exact absurd (List.prefix_of_prefix_length_le isID isRef (by decide)) (by decide)

/-- A Scope is never spelled like a Pipe identifier. -/
theorem Scope.string_ne_of_identified (scope : Scope) {pipeID : GoString}
    (identified : validPipeIDComponent pipeID = true) : scope.string ≠ pipeID := by
  rintro rfl
  have slash : containsAny scope.string [0x2F, 0x5C] = true := by
    have separator : str "/" = [0x2F] := by decide
    simp [containsAny, Scope.string, separator]
  simp [validPipeIDComponent, slash] at identified

theorem revokePipeAccess_subject {s : Store} {row : PipeRow} {id : GoString}
    {authority : GoString → GoString → GoString → ℕ → Except GoError Unit} {subject : RevokeSubject}
    (identified : validPipeIDComponent row.spec.pipeID = true) (named : NamesPipe s row id)
    (resolved : (resolveSubject prim pipeAccess id).run (executeCli authority)
      s = (.ok subject, s)) :
    subject.typeName = pipeAccess ∧ subject.id = row.spec.pipeID ∧
      (subject.scope = row.spec.pipeID ↔ RevokeAligned row id) := by
  have isPipe : resolveSubject prim pipeAccess id = resolvePipe pipeAccess id := by
    exact if_neg (by decide)
  obtain ⟨-, sameType, filed⟩ := resolvePipe_run resolved
  refine ⟨sameType, ?_⟩
  cases named with
  | byRef isRef found =>
    rcases filed with ⟨-, other, foundOther, sameScope, sameID⟩ |
      ⟨noRef, -⟩ | ⟨noRef, -⟩
    · rw [found] at foundOther
      obtain rfl := Except.ok.inj foundOther
      refine ⟨sameID, ?_⟩
      rw [sameScope, pipeRefScope, RevokeAligned]
      grind [hasPrefix_pipe_of_identified, Scope.string_ne_of_identified]
    · rw [isRef] at noRef
      cases noRef
    · rw [isRef] at noRef
      cases noRef
  | byID =>
    have noRef := hasPrefix_pipe_of_identified identified
    have isID : hasPrefix row.spec.pipeID (str "pip_") = true := by
      grind [validPipeIDComponent]
    rcases filed with ⟨isRef, -⟩ | ⟨-, -, sameScope, sameID⟩ | ⟨-, noID, -⟩
    · rw [noRef] at isRef
      cases isRef
    · exact ⟨sameID, fun _ => Or.inl rfl, fun _ => sameScope⟩
    · rw [isID] at noID
      cases noID

/-! ## What the command achieves -/

/-- On this database, every credential of the Pipe that the world issued is
refused: leases by the authorizer, invites by redemption, and the relationships
of the world, as long as they are not accepted anew, by renewal. -/
structure AccessWorld.Fenced (world : AccessWorld) (pipeID : GoString) (s : Store) : Prop where
  lease : ∀ leasePublic (req : OpenRequest) lease, decodeLease prim req.accessLease = .ok lease →
    Leased world.history lease → lease.audiencePipeID = pipeID →
    req.pipeID = pipeID →
    Refused ((authorizeOpen prim leasePublic pipeID req).run Store.execute s).1
  invite : ∀ secretsDir (r : RedeemRequest) invite, decodeInvite prim r.encodedInvite = .ok invite →
    Issued world.history invite → invite.audiencePipeID = pipeID →
    Refused ((handleRedemption prim secretsDir pipeID r).run Store.execute s).1
  relationship : ∀ secretsDir requestPipeID (r : RenewRequest),
    s.acceptedExactRelationships.lookup ⟨pipeID, r.recipientPublic⟩ =
      world.state.acceptedExactRelationships.lookup ⟨pipeID, r.recipientPublic⟩ →
    Refused ((handleRenewal prim secretsDir pipeID requestPipeID r).run Store.execute s).1

section Fenced

variable {start : Store} {pool : AccessPool}
  (noRelationships : start.acceptedExactRelationships = ∅)
  (reachable : (accessSystem prim).Reachable start pool)

include noRelationships reachable in
/-- A database whose epoch has moved past the one of the world refuses all its
credentials. -/
theorem fenced_of_epoch_lt {pipeID : GoString} {s : Store}
    (moved : pool.state.revocationEpoch pipeID pipeAccess pipeID <
      s.revocationEpoch pipeID pipeAccess pipeID) :
    AccessWorld.Fenced prim pool.toWorld pipeID s := by
  refine ⟨?_, ?_, ?_⟩
  · intro leasePublic req lease decoded leased samePipe requested
    by_contra accepted
    obtain ⟨authorization, authorized⟩ := not_refused_iff.mp accepted
    obtain ⟨presented, checks, -, reached⟩ :=
      authorizeOpen_run_ok prim authorized
    obtain rfl : lease = presented :=
      Except.ok.inj (decoded.symm.trans checks.decoded)
    grind [leased_epoch_le]
  · intro secretsDir r invite decoded issued samePipe
    by_contra accepted
    obtain ⟨lease, redeemed⟩ := not_refused_iff.mp accepted
    grind [handleRedemption_run_ok, issued_epoch_le]
  · intro secretsDir requestPipeID r same
    by_contra accepted
    obtain ⟨lease, renewed⟩ := not_refused_iff.mp accepted
    obtain ⟨jti, epoch, found, -, current⟩ :=
      handleRenewal_run_ok prim renewed
    obtain ⟨row, present, -, rfl⟩ :=
      Store.acceptedRelationship_eq_some found
    rw [same] at present
    have bound := relationship_epoch_le prim reachable noRelationships present
    dsimp only at bound
    omega

end Fenced

/-- A revocation under another scope is invisible to the exact path. -/
theorem Store.AgreesOn.of_revoke {s after : Store}
    {pipeID scope subjectType subjectJTI : GoString} {epoch : ℕ} {now : Time}
    (revoked : s.revoke scope subjectType subjectJTI epoch now = .ok after)
    (different : scope ≠ pipeID) : after.AgreesOn pipeID s := by
  refine ⟨?_, ?_, ?_⟩
  · grind [Store.revoke_lookup_other]
  · obtain ⟨-, -, rfl⟩ := Store.revoke_eq_ok revoked
    rfl
  · obtain ⟨-, -, rfl⟩ := Store.revoke_eq_ok revoked
    rfl

/-- **What `revoke pipe-access` achieves.**  On a machine without memberships,
after any run of the exact path, let the command succeed for a Pipe.

* If the row is aligned, every database that grows from the result refuses every
  earlier lease, invite and relationship of the Pipe.
* A lease, an invite or a relationship that was still good before the command is
  refused after it exactly if the row is aligned. -/
theorem revokePipeAccess_fences_iff {start : Store} {pool : AccessPool}
    (noRelationships : start.acceptedExactRelationships = ∅)
    (reachable : (accessSystem prim).Reachable start pool)
    {authority : GoString → GoString → GoString → ℕ → Except GoError Unit}
    {row : PipeRow} {id : GoString} {now : Time} {subject : RevokeSubject}
    {after : Store} (alone : pool.state.memberships = ∅)
    (identified : validPipeIDComponent row.spec.pipeID = true) (named : NamesPipe pool.state row id)
    (succeeded : (revoke prim pipeAccess id now).run (executeCli authority)
      pool.state = (.ok subject, after)) :
    (RevokeAligned row id → ∀ later, after.Grows later →
      AccessWorld.Fenced prim pool.toWorld row.spec.pipeID later) ∧
    (∀ leasePublic (req : OpenRequest) lease, decodeLease prim req.accessLease = .ok lease →
      Leased pool.history lease → lease.audiencePipeID = row.spec.pipeID →
      req.pipeID = row.spec.pipeID →
      ¬Refused ((authorizeOpen prim leasePublic row.spec.pipeID req).run
        Store.execute pool.state).1 →
      (Refused ((authorizeOpen prim leasePublic row.spec.pipeID req).run
        Store.execute after).1 ↔ RevokeAligned row id)) ∧
    (∀ secretsDir (r : RedeemRequest) invite, decodeInvite prim r.encodedInvite = .ok invite →
      Issued pool.history invite → invite.audiencePipeID = row.spec.pipeID →
      ¬Refused ((handleRedemption prim secretsDir row.spec.pipeID r).run
        Store.execute pool.state).1 →
      (Refused ((handleRedemption prim secretsDir row.spec.pipeID r).run
        Store.execute after).1 ↔ RevokeAligned row id)) ∧
    (∀ secretsDir requestPipeID (r : RenewRequest),
      ¬Refused ((handleRenewal prim secretsDir row.spec.pipeID requestPipeID
        r).run Store.execute pool.state).1 →
      (Refused ((handleRenewal prim secretsDir row.spec.pipeID requestPipeID
        r).run Store.execute after).1 ↔ RevokeAligned row id)) := by
  obtain ⟨resolved, written⟩ := revoke_run_alone alone succeeded
  obtain ⟨isPipeAccess, isPipe, aligned⟩ :=
    revokePipeAccess_subject prim identified named resolved
  -- The aligned command raises the epoch that the exact path reads.
  have fenced : RevokeAligned row id → ∀ later, after.Grows later →
      AccessWorld.Fenced prim pool.toWorld row.spec.pipeID later := by
    intro isAligned later grows
    have raised := revoke_run_epoch alone succeeded (Or.inl isPipeAccess)
    grind [Store.Grows.revocationEpoch_le, fenced_of_epoch_lt]
  -- Otherwise nothing changes for it.
  have unchanged : ¬RevokeAligned row id →
      after.AgreesOn row.spec.pipeID pool.state := fun notAligned =>
    Store.AgreesOn.of_revoke written (fun same => notAligned (aligned.mp same))
  refine ⟨fenced, ?_, ?_, ?_⟩
  · intro leasePublic req lease decoded leased samePipe requested accepted
    constructor
    · intro refused
      by_contra notAligned
      rw [(unchanged notAligned).outcome (authorizeOpen_conduct prim leasePublic _ req)
        fun _ _ ⟨_, _, asks⟩ => asks.inScope] at refused
      exact accepted refused
    · intro isAligned
      exact (fenced isAligned after (Store.Grows.refl _)).lease leasePublic req
        lease decoded leased samePipe requested
  · intro secretsDir r invite decoded issued samePipe accepted
    constructor
    · intro refused
      by_contra notAligned
      rw [(unchanged notAligned).outcome (handleRedemption_conduct prim secretsDir _ r)
        fun _ _ ⟨_, _, asks⟩ => asks.inScope] at refused
      exact accepted refused
    · intro isAligned
      exact (fenced isAligned after (Store.Grows.refl _)).invite secretsDir r
        invite decoded issued samePipe
  · intro secretsDir requestPipeID r accepted
    constructor
    · intro refused
      by_contra notAligned
      rw [(unchanged notAligned).outcome (handleRenewal_conduct prim secretsDir _ requestPipeID r)
        fun _ _ ⟨_, asks⟩ => asks.inScope] at refused
      exact accepted refused
    · intro isAligned
      refine (fenced isAligned after (Store.Grows.refl _)).relationship
        secretsDir requestPipeID r ?_
      obtain ⟨-, -, rfl⟩ := Store.revoke_eq_ok written
      rfl

/-! ### A Pipe in a Scope -/

/-- The Pipe of the toy run, in the Scope `home/default`. -/
def scopedRow : PipeRow :=
  ⟨plainPipeID, { plainSpec with scope := some ⟨str "home", str "default"⟩ }, str "owner.key", []⟩

/-- The machine holds the authority of that Scope. -/
def scopedStore : Store :=
  { pipes := (∅ : Table GoString PipeRow).insert (str "pipe/web") scopedRow,
    scopes := (∅ : Table GoString ScopeRow).insert (str "home/default")
      ⟨str "public", str "authority.key", str "namespace.key"⟩,
    currentScope := str "home/default" }

def plainRenew (epoch : ℕ) : RenewRequest :=
  { now := dawn, recipientPublic := plainPublic recipientSecret,
    ownerBinding := plainText epoch, serverChallenge := str "c",
    challengeProof := rawURLEncode recipientSecret,
    keyFile := .ok authoritySecret, leaseLifetime := 0, leaseRandom := .ok [] }

/-- The Pipe is shared and the invite redeemed, at epoch 0. -/
def scopedPool : AccessPool :=
  play (accessSystem plain) Store.execute
    [.spawn (.share (plainShare 0)), .move 0, .move 0, .move 0,
      .spawn (.redeem (str "secrets") plainPipeID (plainRedeem 0)),
      .move 1, .move 1, .move 1, .move 1]
    (Pool.start scopedStore)

theorem scopedPool_reachable : (accessSystem plain).Reachable scopedStore scopedPool := by
  refine play_reachable storeExec_execute (System.Reachable.start _) ⟨trivial, ?_, trivial⟩
  intro invite decoded _ _
  obtain rfl : plainInvite 0 = invite := Except.ok.inj decoded
  exact ⟨_, List.mem_of_getElem? (i := 3) rfl, _, rfl, rfl⟩

/-- The command run alone on the database of the scoped Pipe. -/
def scopedRevoke (id : GoString) : Except GoError RevokeSubject × Store :=
  (revoke plain pipeAccess id dawn).run
    (executeCli fun _ _ _ _ => .error errNotFound) scopedPool.state

/-- Named by its reference, the Pipe in a Scope is reported revoked, and its
lease, its invite and its relationship all stay good. -/
theorem revokePipeAccess_scoped_ref : (accessSystem plain).Reachable scopedStore scopedPool ∧
      scopedStore.acceptedExactRelationships = ∅ ∧
      scopedPool.state.memberships = ∅ ∧
      NamesPipe scopedPool.state scopedRow (str "pipe/web") ∧
      Leased scopedPool.history (plainLease 0) ∧
      (scopedRevoke (str "pipe/web")).1 = .ok ⟨pipeAccess, str "home/default", plainPipeID⟩ ∧
      ¬Refused ((authorizeOpen plain (authoritySecret.take 32) plainPipeID
        (plainOpen 0)).run Store.execute (scopedRevoke (str "pipe/web")).2).1 ∧
      ¬Refused ((handleRedemption plain (str "secrets") plainPipeID
        (plainRedeem 0)).run Store.execute (scopedRevoke (str "pipe/web")).2).1 ∧
      ¬Refused ((handleRenewal plain (str "secrets") plainPipeID plainPipeID
        (plainRenew 0)).run Store.execute (scopedRevoke (str "pipe/web")).2).1 :=
  ⟨scopedPool_reachable, rfl, rfl, .byRef rfl rfl,
    ⟨_, List.mem_of_getElem? (i := 8) rfl, _, rfl, rfl⟩, rfl,
    not_refused_iff.mpr ⟨_, rfl⟩, not_refused_iff.mpr ⟨_, rfl⟩,
    not_refused_iff.mpr ⟨_, rfl⟩⟩

/-- Named by its identifier, the same Pipe is fenced. -/
theorem revokePipeAccess_fences_iff_scoped : (scopedRevoke plainPipeID).1 =
        .ok ⟨pipeAccess, plainPipeID, plainPipeID⟩ ∧
      AccessWorld.Fenced plain scopedPool.toWorld plainPipeID (scopedRevoke plainPipeID).2 :=
  ⟨rfl, (revokePipeAccess_fences_iff plain rfl scopedPool_reachable rfl
      (by decide) (.byID : NamesPipe scopedPool.state scopedRow _) rfl).1
      (Or.inl rfl) _ (Store.Grows.refl _)⟩

end Tubo
