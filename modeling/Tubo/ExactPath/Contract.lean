import Tubo.Concurrency.Threads
import Tubo.ExactPath.System
import Tubo.Store.Growth

/-!
# Credentials hand the epoch on

A share mints at the epoch it reads, a redemption at the epoch of the invite, a
renewal at the epoch of the relationship, and a relationship has the epoch of
the invite whose first redemption wrote it.

* `AccessCall.code_conduct` — what each call asks the database after which
  answers, and what its success owes.  This holds in every environment, hence of
  every thread in every interleaving.
* `relationship_written` — relationships are written by first redemptions only.
* `leased_descends` — every lease descends from an issued invite of its Pipe and
  epoch.
* `issued_epoch_le`, `leased_epoch_le` and `relationship_epoch_le` — no
  credential is ahead of the stored epoch.
-/

namespace Tubo

open Concurrency

variable (prim : Primitives)

/-! ## The exchanges of a call -/

/-- What a call asks the database, after which answers. -/
def AccessCall.Asks : AccessCall → List StoreExchange → StoreCommand → Prop
  | share r => ShareAsks r
  | redeem _ pipeID r => fun history command =>
    ∃ invite, r.Presents prim pipeID invite ∧ RedeemAsks pipeID r invite history command
  | renew _ pipeID requestPipeID r => fun history command =>
    requestPipeID = pipeID ∧ RenewAsks pipeID r history command
  | revoke scope subjectType subjectJTI epoch now => fun history command =>
    history = [] ∧ command = .revoke scope subjectType subjectJTI epoch now
  | authorize leasePublic pipeID req => fun history command =>
    ∃ lease, Presented prim leasePublic req lease ∧ AuthorizeAsks pipeID req lease history command

/-- What the exchanges of a call say about its success. -/
def AccessCall.Owes (call : AccessCall) (history : List StoreExchange)
    (outcome : AccessOutcome) : Prop :=
  match call, outcome with
  | .share r, .shared result => ShareOwes r history result
  | .redeem _ pipeID r, .leased lease =>
    ∃ invite, RedeemOwes prim pipeID r history lease invite
  | .renew _ pipeID requestPipeID r, .leased lease =>
    requestPipeID = pipeID ∧ ∃ jti, RenewOwes pipeID r history lease jti
  | .revoke scope subjectType subjectJTI epoch now, .revoked =>
    history = [⟨.revoke scope subjectType subjectJTI epoch now, .ok ()⟩]
  | .authorize leasePublic pipeID req, .authorized authorization =>
    ∃ lease epoch, AuthorizeOwes prim leasePublic pipeID req history authorization lease epoch
  | _, _ => False

/-- **The exchanges of a call, in every environment.** -/
theorem AccessCall.code_conduct (call : AccessCall) : (call.code prim).Always (call.Asks prim)
      (Program.OnSuccess (call.Owes prim)) [] := by
  cases call with
  | share r =>
    exact Program.Always.map ((shareExact_conduct prim r).mono
      fun _ _ owes => owes.map fun _ holds => holds)
  | redeem secretsDir pipeID r =>
    exact Program.Always.map ((handleRedemption_conduct prim secretsDir pipeID
      r).mono fun _ _ owes => owes.map fun _ holds => holds)
  | renew secretsDir pipeID requestPipeID r =>
    exact Program.Always.map ((handleRenewal_conduct prim secretsDir pipeID
      requestPipeID r).mono fun _ _ owes => owes.map fun _ holds => holds)
  | revoke scope subjectType subjectJTI epoch now =>
    refine ⟨⟨rfl, rfl⟩, ?_⟩
    rintro (error | _)
    · exact Program.Always.failed _ _
    · rintro outcome ⟨⟩
      rfl
  | authorize leasePublic pipeID req =>
    exact Program.Always.map ((authorizeOpen_conduct prim leasePublic pipeID
      req).mono fun _ _ owes => owes.map fun _ holds => holds)

/-- **Before the transaction.**  The transaction of a redemption is about the
invite its thread presents, and the thread has made exactly its two checks.
This does not depend on which calls may be started. -/
theorem redemption_checked {admits : List AccessEvent → AccessCall → Prop}
    {start : Store} {pool : AccessPool}
    (reachable : (accessSystemUnder prim admits).Reachable start pool) {k : ℕ} {event : AccessEvent}
    {jti pipeID sessionID recipient : GoString} {epoch : ℕ} {now : Time}
    {response : Except GoError Bool} (atCommit : pool.history[k]? = some event)
    (isRan : event.action = .ran (.redeemInviteAndAccept jti pipeID sessionID recipient epoch now)
        response) :
    ∃ secretsDir r invite, pool.toWorld.Runs event.thread (.redeem secretsDir pipeID r) ∧
      r.Presents prim pipeID invite ∧ invite.jti = jti ∧
      invite.accessEpoch = epoch ∧
      exchangesOf event.thread (pool.history.take k) = redeemReads pipeID invite := by
  obtain ⟨call, runs, asks⟩ := reachable.permitted (AccessCall.code_conduct prim) atCommit isRan
  generalize exchangesOf event.thread (pool.history.take k) = asked at asks ⊢
  cases call with
  | share r => cases asks
  | redeem secretsDir served r =>
    obtain ⟨invite, presents, asks⟩ := asks
    cases asks
    exact ⟨secretsDir, r, invite, runs, presents, rfl, rfl, rfl⟩
  | renew secretsDir served requestPipeID r => cases asks.2
  | revoke scope subjectType subjectJTI revoked at' => cases asks.2
  | authorize leasePublic served req =>
    obtain ⟨lease, -, asks⟩ := asks
    cases asks

section Reachable

variable {start : Store} {pool : AccessPool}
  (reachable : (accessSystem prim).Reachable start pool)
include reachable

variable {event : AccessEvent} {thread : ℕ} {pipeID : GoString} {invite : ExactInvite}
  {lease : AccessLease}

/-- The exchanges of a thread that returned a success. -/
theorem returned_owes {outcome : AccessOutcome}
    (member : event ∈ pool.history) (isReturn : event.action = .returned (.ok outcome)) :
    ∃ call, pool.toWorld.Runs event.thread call ∧
      call.Owes prim (exchangesOf event.thread pool.history) outcome := by
  obtain ⟨call, runs, owes⟩ := reachable.returned_post
    (AccessCall.code_conduct prim) member isReturn
  exact ⟨call, runs, owes outcome rfl⟩

/-- A share reads the epoch at which it mints, and no other. -/
theorem shared_reads {result : ShareExactResult}
    (member : event ∈ pool.history) (isReturn : event.action = .returned (.ok (.shared result))) :
    (∀ scope subjectType subjectJTI epoch,
      (⟨.revocationEpoch scope subjectType subjectJTI, .ok epoch⟩ :
        StoreExchange) ∈ exchangesOf event.thread pool.history →
      scope = result.minted.audiencePipeID ∧ epoch = result.minted.accessEpoch) ∧
      (⟨.revocationEpoch result.minted.audiencePipeID pipeAccess
          result.minted.audiencePipeID, .ok result.minted.accessEpoch⟩ :
        StoreExchange) ∈ exchangesOf event.thread pool.history := by
  obtain ⟨call, -, owes⟩ := returned_owes prim reachable member isReturn
  cases call with
  | share r =>
    obtain ⟨row, exchanges⟩ := owes
    grind
  | _ => exact owes.elim

/-- An invite that is presented for redemption was issued. -/
theorem presented_issued {secretsDir : GoString} {r : RedeemRequest}
    (runs : pool.toWorld.Runs thread (.redeem secretsDir pipeID r))
    (presents : r.Presents prim pipeID invite) : Issued pool.history invite := by
  obtain ⟨earlier, isPrefix, unforged⟩ := reachable.admitted runs
  exact (unforged invite presents.decoded presents.audience presents.verified).mono isPrefix

/-- A lease that is presented to an authorizer was returned before. -/
theorem presented_leased {leasePublic : Bytes} {req : OpenRequest}
    (runs : pool.toWorld.Runs thread (.authorize leasePublic pipeID req))
    (presented : Presented prim leasePublic req lease) : Leased pool.history lease := by
  obtain ⟨earlier, isPrefix, unforged⟩ := reachable.admitted runs
  exact (unforged lease presented.decoded presented.verified).mono isPrefix

/-- The row of every relationship was written by a first redemption. -/
theorem relationship_written (noRelationships : start.acceptedExactRelationships = ∅)
    {key : RelationshipKey} {row : Relationship}
    (present : pool.state.acceptedExactRelationships.lookup key = some row) :
    ∃ event, AccessWorld.FirstRedemption pool.toWorld event row.inviteJTI
      key.pipeID key.recipientPublic row.accessEpoch := by
  induction reachable with
  | refl =>
    rw [show (Pool.start start : AccessPool).state = start from rfl, noRelationships] at present
    cases present
  | tail _ step ih =>
    rename_i earlier next _
    obtain ⟨thread, action, after, recorded, effect⟩ := step.record
    rw [show next.state = after from congrArg World.state recorded] at present
    rw [recorded]
    rcases effect with rfl | ⟨command, response, rfl, effect⟩
    · obtain ⟨event, member, first⟩ := ih present
      exact ⟨event, List.mem_append_left _ member, first⟩
    · rcases StoreExec.relationship_source effect present with
        old | ⟨sessionID, now, exchanged, absent⟩
      · obtain ⟨event, member, first⟩ := ih old
        exact ⟨event, List.mem_append_left _ member, first⟩
      · cases exchanged
        exact ⟨_, List.mem_append_right _ (List.mem_singleton_self _),
          ⟨sessionID, now, rfl⟩, absent⟩

/-! ## Where credentials come from -/

/-- A redeeming thread redeems one invite. -/
theorem AccessWorld.Redeems.unique {other : ExactInvite}
    (first : AccessWorld.Redeems prim pool.toWorld thread invite)
    (second : AccessWorld.Redeems prim pool.toWorld thread other) : invite = other := by
  obtain ⟨_, _, r, runs, decoded⟩ := first
  obtain ⟨_, _, r', runs', decoded'⟩ := second
  grind [System.Reachable.runs_unique]

/-- The first redemption behind a relationship redeemed an issued invite, and
every invite its thread redeems has the Pipe and epoch of the relationship. -/
theorem firstRedemption_redeems {jti recipient : GoString} {epoch : ℕ}
    (first : AccessWorld.FirstRedemption pool.toWorld event jti pipeID recipient epoch) :
    (∃ invite, AccessWorld.Redeems prim pool.toWorld event.thread invite) ∧
      ∀ invite, AccessWorld.Redeems prim pool.toWorld event.thread invite →
        Issued pool.history invite ∧ invite.accessEpoch = epoch ∧
          invite.audiencePipeID = pipeID := by
  obtain ⟨member, ⟨_, _, isRan⟩, -⟩ := first
  obtain ⟨k, atCommit⟩ := List.mem_iff_getElem?.mp member
  obtain ⟨secretsDir, r, origin, runs, presents, -, sameEpoch, -⟩ :=
    redemption_checked prim reachable atCommit isRan
  have redeems : AccessWorld.Redeems prim pool.toWorld event.thread origin :=
    ⟨secretsDir, pipeID, r, runs, presents.decoded⟩
  refine ⟨⟨origin, redeems⟩, ?_⟩
  intro invite other
  grind [AccessWorld.Redeems.unique, presented_issued, RedeemRequest.Presents.audience]

/-- A returned lease descends from an invite, and every invite it descends from
was issued, for the Pipe and at the epoch of the lease. -/
theorem leased_descends (noRelationships : start.acceptedExactRelationships = ∅)
    (member : event ∈ pool.history) (isReturn : event.action = .returned (.ok (.leased lease))) :
    (∃ invite, AccessWorld.Descends prim pool.toWorld event.thread invite) ∧
    ∀ invite, AccessWorld.Descends prim pool.toWorld event.thread invite →
      Issued pool.history invite ∧ invite.accessEpoch = lease.accessEpoch ∧
        invite.audiencePipeID = lease.audiencePipeID := by
  obtain ⟨call, runs, owes⟩ := returned_owes prim reachable member isReturn
  cases call with
  | redeem secretsDir pipeID r =>
    obtain ⟨origin, presents, sameEpoch, samePipe, -⟩ := owes
    have redeems : AccessWorld.Redeems prim pool.toWorld event.thread
        origin := ⟨secretsDir, pipeID, r, runs, presents.decoded⟩
    refine ⟨⟨origin, .redeemed redeems⟩, ?_⟩
    intro invite descends
    cases descends with
    | redeemed other =>
      obtain rfl := other.unique prim reachable redeems
      exact ⟨presented_issued prim reachable runs presents, sameEpoch.symm,
        presents.audience.trans samePipe.symm⟩
    | renewed renews =>
      cases reachable.runs_unique runs renews
  | renew secretsDir pipeID requestPipeID r =>
    obtain ⟨rfl, jti, samePipe, exchanges⟩ := owes
    refine ⟨?_, ?_⟩
    · obtain ⟨read, readMember, sameThread, isRead, effect⟩ :=
        reachable.exec_of_exchange (exchanges ▸ List.mem_cons_self)
      obtain ⟨found, -⟩ := StoreExec.acceptedRelationship_ok effect
      obtain ⟨row, present, rfl, sameEpoch⟩ :=
        Store.acceptedRelationship_eq_some found
      obtain ⟨earlier, reached, sameState, isPrefix⟩ :=
        reachable.before_event readMember
      rw [← sameState] at present
      obtain ⟨redemption, redeemed, rest⟩ :=
        relationship_written prim reached noRelationships present
      have first : AccessWorld.FirstRedemption pool.toWorld redemption
          row.inviteJTI requestPipeID r.recipientPublic row.accessEpoch :=
        ⟨isPrefix.subset redeemed, rest⟩
      obtain ⟨⟨invite, redeems⟩, -⟩ :=
        firstRedemption_redeems prim reachable first
      rw [← sameEpoch] at isRead
      exact ⟨invite, .renewed runs readMember sameThread isRead first redeems⟩
    · intro invite descends
      cases descends with
      | redeemed other =>
        obtain ⟨_, _, _, redeems, -⟩ := other
        cases reachable.runs_unique runs redeems
      | renewed renews member' sameThread isRead first redeems =>
        cases reachable.runs_unique runs renews
        have asked := mem_exchangesOf_of_ran member' isRead
        rw [sameThread, exchanges] at asked
        grind [firstRedemption_redeems]
  | _ => exact owes.elim

/-! ### No credential is ahead of the database -/

/-- An issued invite has at most the stored epoch of its Pipe. -/
theorem issued_epoch_le (issued : Issued pool.history invite) :
    invite.accessEpoch ≤ pool.state.revocationEpoch invite.audiencePipeID
      pipeAccess invite.audiencePipeID := by
  have ordered := reachable.ordered Store.Grows.refl Store.Grows.trans
    fun _ _ _ _ effect => StoreExec.grows effect
  obtain ⟨event, member, result, isReturn, sameContent⟩ := issued
  obtain ⟨-, epochRead⟩ := shared_reads prim reachable member isReturn
  have sameEpoch : result.minted.accessEpoch = invite.accessEpoch := by
    rw [← sameContent]
  have samePipe : result.minted.audiencePipeID = invite.audiencePipeID := by
    rw [← sameContent]
  rw [← sameEpoch, ← samePipe]
  obtain ⟨read, readMember, -, -, effect⟩ :=
    reachable.exec_of_exchange epochRead
  obtain ⟨value, unchanged⟩ := StoreExec.revocationEpoch_ok effect
  have bound := (ordered.reached read readMember).revocationEpoch_le
    result.minted.audiencePipeID pipeAccess result.minted.audiencePipeID
  rw [unchanged, value] at bound
  exact bound

/-- A returned lease has at most the stored epoch of its Pipe. -/
theorem leased_epoch_le (noRelationships : start.acceptedExactRelationships = ∅)
    (leased : Leased pool.history lease) :
    lease.accessEpoch ≤ pool.state.revocationEpoch lease.audiencePipeID
      pipeAccess lease.audiencePipeID := by
  obtain ⟨event, member, minted, isReturn, sameContent⟩ := leased
  have sameEpoch : minted.accessEpoch = lease.accessEpoch := by
    rw [← sameContent]
  have samePipe : minted.audiencePipeID = lease.audiencePipeID := by
    rw [← sameContent]
  obtain ⟨⟨invite, descends⟩, origins⟩ :=
    leased_descends prim reachable noRelationships member isReturn
  grind [issued_epoch_le]

/-- An accepted relationship has at most the stored epoch of its Pipe. -/
theorem relationship_epoch_le (noRelationships : start.acceptedExactRelationships = ∅)
    {key : RelationshipKey} {row : Relationship}
    (present : pool.state.acceptedExactRelationships.lookup key = some row) :
    row.accessEpoch ≤ pool.state.revocationEpoch key.pipeID pipeAccess key.pipeID := by
  obtain ⟨event, first⟩ :=
    relationship_written prim reachable noRelationships present
  obtain ⟨⟨invite, redeems⟩, origins⟩ :=
    firstRedemption_redeems prim reachable first
  grind [issued_epoch_le]

end Reachable

end Tubo
