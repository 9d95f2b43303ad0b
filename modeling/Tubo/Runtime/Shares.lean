import Tubo.Runtime.Refresh

/-!
# Redemption of shares

`share_invite.redeem` checks the presented share and the publication of its Pipe, and
whether the share itself is revoked.  The epoch that is recorded in the share is not
among the checks, and the leases are minted at the epoch of the moment.

* `revoked_share_refused_iff` — what a redemption depends on, after a revocation of
  the access to the Pipe as before.
* `revoked_share_redeemed` — a share of epoch 0 is redeemed at epoch 1.
-/

namespace Tubo

open Concurrency

variable (prim : Primitives) (json : AuthorityJSON) (h : ScopeAuthority)

/-! ## Histories -/

/-- What a call answers, if no other call interferes. -/
def AuthorityCall.outcome (call : AuthorityCall) (s : AuthorityTables) :
    Except GoError AuthorityReply :=
  ((call.code prim json h).run AuthorityTables.execute s).1

/-- The tables after a call. -/
def AuthorityCall.effect (call : AuthorityCall) (s : AuthorityTables) : AuthorityTables :=
  ((call.code prim json h).run AuthorityTables.execute s).2

/-! ## What a redemption depends on -/

/-- The tables after `RecordInScope` has deleted expired records. -/
def AuthorityTables.pruned (s : AuthorityTables) (now : Time) : AuthorityTables :=
  { s with discovery := s.discovery.pruneExpiredRecords now }

/-- The Pipe has a valid published record. -/
def AuthorityTables.Published (s : AuthorityTables) (pipeID : GoString)
    (clock : ℕ → Time) (record : PipeRecord) : Prop :=
  ∃ stored, (s.pruned (clock 0)).discovery.recordInScope h.scope.string pipeID
      (clock 1) = .ok stored ∧
    h.readPublication prim json stored (clock 2) = .ok record

/-- The share has not been redeemed, or by the same client. -/
def Store.RedeemableBy (s : Store) (jti pipeID client : GoString) : Prop :=
  ∀ row, s.inviteRedemptions.lookup ⟨jti, pipeID⟩ = some row → row.clientPublic = client

/-- What a redemption depends on. -/
structure Redeemable (s : AuthorityTables) (request : AuthorityRequest)
    (e : ServerInput) (invite : Token) : Prop where
  admitted : h.presentedToken prim json request (e.clock 0) = .ok invite
  share : ScopeAuthority.requireShare request invite = .ok ()
  published : ∃ record, s.Published prim json h invite.audience (fun k => e.clock (k + 1)) record
  unrevoked : s.store.isRevoked h.scope.string shareInviteSubject invite.jti = false
  session : ∃ sessionID, newSessionID (e.random 0) = .ok sessionID ∧
    Store.redemptionArguments invite.jti invite.audience sessionID request.clientPublic = .ok ()
  unclaimed : s.store.RedeemableBy invite.jti invite.audience request.clientPublic
  mints : ∃ reply, h.leasePair prim json request.clientPublic request.pipeID
    (s.store.revocationEpoch h.scope.string pipeAccess request.pipeID) e = .ok reply

variable {prim json h}

/-! ## The parts of a redemption -/

section Parts

variable {s after : AuthorityTables}

variable {pipeID jti sessionID clientPublic : GoString} {e : ServerInput} {now : Time}
  {request : AuthorityRequest} {invite : Token}

theorem ScopeAuthority.publication_run {clock : ℕ → Time} {record : PipeRecord} :
    (h.publication prim json pipeID clock).run AuthorityTables.execute s = (.ok record, after) ↔
      s.Published prim json h pipeID clock record ∧ after = s.pruned (clock 0) := by
  have ran : (h.publication prim json pipeID clock).run AuthorityTables.execute s = _ :=
    Program.run_bind AuthorityTables.execute _ _ s
  have read : (Tubo.recordInScope h.scope.string pipeID clock).run
      AuthorityTables.execute s = ((s.pruned (clock 0)).discovery.recordInScope
        h.scope.string pipeID (clock 1), s.pruned (clock 0)) := rfl
  rw [ran, read]
  unfold AuthorityTables.Published
  cases found : (s.pruned (clock 0)).discovery.recordInScope h.scope.string pipeID (clock 1) with
  | error error => simp
  | ok stored => simp [eq_comm]

theorem ScopeAuthority.requireUnrevoked_run {subjectType : GoString}
    {complaint : String} {value : Unit} :
    (h.requireUnrevoked subjectType jti complaint).run AuthorityTables.execute s =
        (.ok value, after) ↔
      s.store.isRevoked h.scope.string subjectType jti = false ∧ after = s := by
  show ((do
      let revoked ← errorf "persistence_failed: revocation: "
        (.ok (s.store.isRevoked h.scope.string subjectType jti))
      failIf (revoked = true) (errorsNew complaint) : Except GoError Unit), s) =
    (.ok value, after) ↔ _
  rw [Prod.mk.injEq]
  refine and_congr ?_ eq_comm
  simp [errorf]

theorem ScopeAuthority.mintLeases_run {subject : GoString} {reply : AuthorityReply} :
    (h.mintLeases prim json subject pipeID e).run AuthorityTables.execute s = (.ok reply, after) ↔
      h.leasePair prim json subject pipeID
          (s.store.revocationEpoch h.scope.string pipeAccess pipeID) e = .ok reply ∧
        after = s := by
  rw [Prod.mk.injEq]
  exact and_congr_right' eq_comm

/-- A program over `store` leaves the other tables alone. -/
theorem onStore_run {α : Type} (program : StoreProgram α) (s : AuthorityTables) :
    (onStore program).run AuthorityTables.execute s = ((program.run Store.execute s.store).1,
        { s with store := (program.run Store.execute s.store).2 }) := by
  induction program generalizing s with
  | done value => rfl
  | call command next ih => exact ih _ _

/-- `RedeemInvite`, if no other call interferes. -/
theorem redeemInvite_run {s : Store} :
    (redeemInvite jti pipeID sessionID clientPublic now).run Store.execute s =
      match Store.redemptionArguments jti pipeID sessionID clientPublic with
      | .error error => (.error error, s)
      | .ok () =>
        match s.inviteRedemptions.lookup ⟨jti, pipeID⟩ with
        | none =>
          (.ok true, { s with
            inviteRedemptions := s.inviteRedemptions.insert ⟨jti, pipeID⟩
              ⟨now.utc.formatRFC3339Nano, sessionID, clientPublic, .scoped⟩ })
        | some row =>
          (if row.clientPublic ≠ clientPublic then .error errInviteRedeemed
            else .ok false, s) := by
  unfold redeemInvite
  cases Store.redemptionArguments jti pipeID sessionID clientPublic with
  | error error => rfl
  | ok _ =>
    have inserted : Store.execute (.insertRedemption jti pipeID sessionID clientPublic
        now) s = ((.ok (s.insertRedemption jti pipeID sessionID clientPublic now).1 :
          Except GoError ℕ), (s.insertRedemption jti pipeID sessionID clientPublic now).2) := rfl
    rw [Program.run_call, inserted]
    unfold Store.insertRedemption
    cases found : s.inviteRedemptions.lookup ⟨jti, pipeID⟩ with
    | none =>
      rw [Table.insertOrIgnore_none _ found]
      rfl
    | some row =>
      have asked : Store.execute (.redemptionClient jti pipeID) s =
          ((.ok row.clientPublic : Except GoError GoString), s) := by
        simp [Store.execute, Store.redemptionClient, found]
      rw [Table.insertOrIgnore_some _ found]
      show Program.run _ (Program.call (StoreCommand.redemptionClient jti pipeID) _) s = _
      rw [Program.run_call, asked]
      by_cases same : row.clientPublic = clientPublic <;> simp [same]

theorem redeemInvite_revocations {s : Store} :
    ((redeemInvite jti pipeID sessionID clientPublic now).run Store.execute
      s).2.revocations = s.revocations := by
  rw [redeemInvite_run]
  split
  · rfl
  · split <;> rfl

theorem ScopeAuthority.redeem_run_eq {value : Unit} :
    (ScopeAuthority.redeem request invite sessionID now).run
        AuthorityTables.execute s = (.ok value, after) ↔
      (∃ first, ((redeemInvite invite.jti invite.audience sessionID
          request.clientPublic now).run Store.execute s.store).1 = .ok first) ∧
        after = { s with store := ((redeemInvite invite.jti invite.audience sessionID
          request.clientPublic now).run Store.execute s.store).2 } := by
  have ran : (ScopeAuthority.redeem request invite sessionID now).run
      AuthorityTables.execute s = _ :=
    Program.run_bind AuthorityTables.execute _ _ s
  rw [ran, onStore_run]
  split <;> rename_i result answered <;> dsimp only at answered
  · rw [answered]
    simp [eq_comm]
  · rw [answered]
    simp

/-- `RedeemInvite` succeeds for the client that was first. -/
theorem redeemInvite_eq_ok {s : Store} :
    (∃ first, ((redeemInvite jti pipeID sessionID clientPublic now).run Store.execute
        s).1 = .ok first) ↔
      Store.redemptionArguments jti pipeID sessionID clientPublic = .ok () ∧
        s.RedeemableBy jti pipeID clientPublic := by
  rw [redeemInvite_run]
  unfold Store.RedeemableBy
  cases Store.redemptionArguments jti pipeID sessionID clientPublic with
  | error error => simp
  | ok _ =>
    cases found : s.inviteRedemptions.lookup ⟨jti, pipeID⟩ with
    | none => simp
    | some row =>
      by_cases same : row.clientPublic = clientPublic <;> simp [same]

/-- A request is an admission and an operation. -/
theorem AuthorityCall.outcome_serve :
    (∃ reply, (AuthorityCall.serve request e).outcome prim json h s = .ok reply) ↔
      ∃ invite, h.presentedToken prim json request (e.clock 0) = .ok invite ∧
        ∃ reply after, (h.dispatch prim json request invite e).run
          AuthorityTables.execute s = (.ok reply, after) := by
  have served : (∃ reply, (AuthorityCall.serve request e).outcome prim json h s =
      .ok reply) ↔ ∃ reply after, (h.process prim json request e).run
        AuthorityTables.execute s = (.ok reply, after) :=
    ⟨fun ⟨reply, isReply⟩ => ⟨reply, _, Prod.ext isReply rfl⟩,
      fun ⟨reply, _, ran⟩ => ⟨reply, congrArg Prod.fst ran⟩⟩
  grind [Program.run_andThen_eq_ok, Program.run_done_eq_ok, ScopeAuthority.process]

theorem ScopeAuthority.dispatch_redeem (isRedeem : request.operation = str "share_invite.redeem") :
    h.dispatch prim json request invite e = h.redeemShare prim json request invite e := by
  unfold ScopeAuthority.dispatch
  rw [isRedeem]
  rfl

/-- **One redemption.** -/
theorem ScopeAuthority.redeemShare_run
    (admitted : h.presentedToken prim json request (e.clock 0) = .ok invite) :
    (∃ reply after, (h.redeemShare prim json request invite e).run
        AuthorityTables.execute s = (.ok reply, after)) ↔
      Redeemable prim json h s request e invite := by
  unfold ScopeAuthority.redeemShare
  simp only [Program.run_andThen_eq_ok, Program.run_done_eq_ok, publication_run,
    requireUnrevoked_run, redeem_run_eq, redeemInvite_eq_ok, mintLeases_run]
  -- The revocations are the same before, between and after the steps.
  have sameEpoch : ∀ sessionID, Store.revocationEpoch ((redeemInvite invite.jti
      invite.audience sessionID request.clientPublic (e.clock 6)).run Store.execute
        s.store).2 h.scope.string pipeAccess request.pipeID =
      s.store.revocationEpoch h.scope.string pipeAccess request.pipeID := by
    intro sessionID
    rw [Store.revocationEpoch, Store.revocationEpoch, redeemInvite_revocations]
  constructor
  · rintro ⟨reply, final, ⟨⟩, _, ⟨share, rfl⟩, record, _, ⟨published, rfl⟩, ⟨⟩, _,
      ⟨unrevoked, rfl⟩, sessionID, _, ⟨isSession, rfl⟩, ⟨⟩, _,
      ⟨⟨valid, unclaimed⟩, rfl⟩, minted, rfl⟩
    exact ⟨admitted, share, ⟨record, published⟩, unrevoked, ⟨sessionID, isSession, valid⟩,
      unclaimed, reply, (sameEpoch sessionID) ▸ minted⟩
  · rintro ⟨-, share, ⟨record, published⟩, unrevoked, ⟨sessionID, isSession, valid⟩,
      unclaimed, reply, minted⟩
    exact ⟨reply, _, (), s, ⟨share, rfl⟩, record, _, ⟨published, rfl⟩, (), _,
      ⟨unrevoked, rfl⟩, sessionID, _, ⟨isSession, rfl⟩, (), _,
      ⟨⟨valid, unclaimed⟩, rfl⟩, (sameEpoch sessionID).symm ▸ minted, rfl⟩

end Parts

/-! ## Every history -/

/-- **A redemption does not look at the epoch.**  In every history of requests and
revocations: after the epoch of the access to the Pipe has passed the epoch of a
share, the redemptions of the share are refused exactly if one of the other checks
refuses them. -/
theorem revoked_share_refused_iff (start : AuthorityTables)
    (calls : List AuthorityCall) (k : ℕ) (request : AuthorityRequest) (e : ServerInput)
    (_ : calls[k]? = some (.serve request e))
    (isRedeem : request.operation = str "share_invite.redeem") (invite : Token)
    (presented : decodeToken json.toRecordJSON request.token = .ok invite)
    (advanced : invite.accessEpoch <
      (stateAt (AuthorityCall.effect prim json h) start calls k).store.revocationEpoch
        h.scope.string pipeAccess invite.audience) :
    Refused ((AuthorityCall.serve request e).outcome prim json h
        (stateAt (AuthorityCall.effect prim json h) start calls k)) ↔
      ¬Redeemable prim json h (stateAt (AuthorityCall.effect prim json h) start calls k)
        request e invite := by
  rw [← not_iff_not, not_refused_iff, not_not]
  rw [AuthorityCall.outcome_serve]
  simp only [ScopeAuthority.dispatch_redeem isRedeem]
  constructor
  · rintro ⟨other, admitted, ran⟩
    obtain rfl : other = invite :=
      Except.ok.inj ((ScopeAuthority.presentedToken_eq_ok admitted).symm.trans presented)
    exact (ScopeAuthority.redeemShare_run admitted).mp ran
  · intro redeemable
    exact ⟨invite, redeemable.admitted,
      (ScopeAuthority.redeemShare_run redeemable.admitted).mpr redeemable⟩

namespace Sample

/-- A record is announced and shared, the access to its Pipe is revoked, and the share
is redeemed. -/
def shareHistory : List AuthorityCall :=
  [.serve (ask "records.announce" 0 [1]) calm, .serve (ask "share_invite.issue" 0 []) calm,
    revocation, .serve (ask "share_invite.redeem" 3 []) calm]

/-- The tables when the `k`-th call begins. -/
def shareState (k : ℕ) : AuthorityTables :=
  stateAt (AuthorityCall.effect unchecked epochJSON authority) {} shareHistory k

end Sample

/-- **A revoked share is redeemed.**  A share of epoch 0 is issued, the epoch of the
access to its Pipe becomes 1, and the redemption returns leases. -/
theorem revoked_share_redeemed :
    (AuthorityCall.serve (Sample.ask "share_invite.issue" 0 []) Sample.calm).outcome
        Sample.unchecked Sample.epochJSON Sample.authority (Sample.shareState 1) =
      .ok { invite := (Sample.ask "share_invite.redeem" 3 []).token } ∧
    decodeToken Sample.epochJSON.toRecordJSON (Sample.ask "share_invite.redeem" 3 []).token =
      .ok (Sample.signedToken 3 0 0) ∧
    (Sample.signedToken 3 0 0).accessEpoch = 0 ∧
    (Sample.shareState 3).store.revocationEpoch Sample.scope.string pipeAccess Sample.pipeID = 1 ∧
    (AuthorityCall.serve (Sample.ask "share_invite.redeem" 3 []) Sample.calm).outcome
        Sample.unchecked Sample.epochJSON Sample.authority (Sample.shareState 3) =
      .ok { lease := Sample.tokenText 1 1 0, refreshLease := Sample.tokenText 2 1 0 } := by
  refine ⟨by decide +kernel, by decide +kernel, rfl, by decide +kernel, by decide +kernel⟩

theorem revoked_share_refused_iff_shared :
    Refused ((AuthorityCall.serve (Sample.ask "share_invite.redeem" 3 [])
        Sample.calm).outcome Sample.unchecked Sample.epochJSON Sample.authority
          (Sample.shareState 3)) ↔
      ¬Redeemable Sample.unchecked Sample.epochJSON Sample.authority
        (Sample.shareState 3) (Sample.ask "share_invite.redeem" 3 []) Sample.calm
          (Sample.signedToken 3 0 0) :=
  revoked_share_refused_iff {} Sample.shareHistory 3 _ _ rfl rfl _ (by decide +kernel)
    (by decide +kernel)

end Tubo
