import Tubo.ExactPath.Fence

/-!
# The state at which a redemption commits

`RedeemExactInvite` asks whether the invite is revoked, compares the epoch, and
commits in a third step.  The transaction itself checks neither, so a `Revoke`
that commits after one of the checks overtakes the redemption.

* `redemption_atomic_iff` — a first redemption commits while the invite is good
  exactly if no revocation overtook it, and in a run without overtaken
  redemptions the epoch of an accepted relationship never decreases.
* `redemption_overtaken` — a run in which a redemption is overtaken and takes
  the relationship back to an older epoch.

Nothing here depends on where the presented texts come from, so the runs are
those of the exact path under any policy for starting calls.
-/

namespace Tubo

open Concurrency

variable (prim : Primitives)

/-- Between a check of the thread and position `k`, a `Revoke` of the invite
committed, or a `Revoke` that raised the pipe-access epoch. -/
inductive AccessWorld.Overtaken (world : AccessWorld) (k thread : ℕ)
    (jti pipeID : GoString) : Prop
  | invite {a i : ℕ} {check revocation : AccessEvent} {epoch : ℕ} {now : Time}
      (atCheck : world.history[a]? = some check)
      (sameThread : check.thread = thread)
      (isCheck : check.action = .ran (.isRevoked pipeID exactInviteSubject jti) (.ok false))
      (atRevoke : world.history[i]? = some revocation)
      (isRevoke : revocation.action =
        .ran (.revoke pipeID exactInviteSubject jti epoch now) (.ok ()))
      (after : a < i) (before : i < k)
  | epoch {a i : ℕ} {check revocation : AccessEvent} {seen epoch : ℕ}
      {now : Time} (atCheck : world.history[a]? = some check)
      (sameThread : check.thread = thread)
      (isCheck : check.action = .ran (.revocationEpoch pipeID pipeAccess pipeID) (.ok seen))
      (atRevoke : world.history[i]? = some revocation)
      (isRevoke : revocation.action = .ran (.revoke pipeID pipeAccess pipeID epoch now) (.ok ()))
      (raised : revocation.before.revocationEpoch pipeID pipeAccess pipeID <
        revocation.after.revocationEpoch pipeID pipeAccess pipeID)
      (after : a < i) (before : i < k)

/-- The invite is good at the Pipe: not revoked, and of the current epoch. -/
def Store.Good (s : Store) (jti pipeID : GoString) (epoch : ℕ) : Prop :=
  s.isRevoked pipeID exactInviteSubject jti = false ∧
    s.revocationEpoch pipeID pipeAccess pipeID = epoch

/-- No accepted relationship is ahead of the epoch of its Pipe. -/
def Store.Current (s : Store) : Prop :=
  ∀ key row, s.acceptedExactRelationships.lookup key = some row →
    row.accessEpoch ≤ s.revocationEpoch key.pipeID pipeAccess key.pipeID

/-- Every accepted relationship is still there, and its epoch has not
decreased. -/
def Store.Advances (s after : Store) : Prop :=
  ∀ key row, s.acceptedExactRelationships.lookup key = some row →
    ∃ later, after.acceptedExactRelationships.lookup key = some later ∧
      row.accessEpoch ≤ later.accessEpoch

theorem Store.Advances.refl (s : Store) : s.Advances s :=
  fun _ row present => ⟨row, present, le_rfl⟩

theorem Store.Advances.trans {s t u : Store} (first : s.Advances t)
    (second : t.Advances u) : s.Advances u := by
  intro key row present
  obtain ⟨middle, presentMiddle, lower⟩ := first key row present
  obtain ⟨last, presentLast, upper⟩ := second key middle presentMiddle
  exact ⟨last, presentLast, Nat.le_trans lower upper⟩

section Atomicity

variable {admits : List AccessEvent → AccessCall → Prop} {start : Store}
  {pool : AccessPool}
  (reachable : (accessSystemUnder prim admits).Reachable start pool)
include reachable

/-! ## What can come between -/

variable {event : AccessEvent} {k : ℕ} {pipeID : GoString} {invite : ExactInvite}

/-- An event that changes a revocation row is a `Revoke` of that row. -/
theorem revocation_event (member : event ∈ pool.history) (key : RevocationKey) :
    event.after.revocations.lookup key = event.before.revocations.lookup key ∨
      ∃ epoch now, event.action = .ran (.revoke key.scope key.subjectType key.subjectJTI epoch now)
          (.ok ()) := by
  rcases reachable.unchanged_or_exec member with
    unchanged | ⟨command, response, isRan, effect⟩
  · rw [unchanged]
    exact Or.inl rfl
  · rcases StoreExec.revocation_source effect key with
      unchanged | ⟨epoch, now, exchanged⟩
    · exact Or.inl unchanged
    · grind

/-- An invite that was good when it was checked is good at the commit, unless
the redemption was overtaken. -/
theorem good_of_not_overtaken (atCommit : pool.history[k]? = some event)
    (checked : exchangesOf event.thread (pool.history.take k) = redeemReads pipeID invite)
    (notOvertaken : ¬AccessWorld.Overtaken pool.toWorld k event.thread invite.jti pipeID) :
    event.before.Good invite.jti pipeID invite.accessEpoch := by
  refine ⟨?_, ?_⟩
  · have asked : (⟨.isRevoked pipeID exactInviteSubject invite.jti, .ok false⟩ :
        StoreExchange) ∈ exchangesOf event.thread (pool.history.take k) := by
      rw [checked]
      exact List.mem_cons_self
    obtain ⟨a, check, below, atCheck, sameThread, isCheck⟩ :=
      mem_exchangesOf_take.mp asked
    obtain ⟨notRevoked, unchanged⟩ := (reachable.exec_of_mem
      (List.mem_of_getElem? atCheck) isCheck).isRevoked_ok
    refine reachable.until_event atCheck atCommit below
      (P := fun s => s.isRevoked pipeID exactInviteSubject invite.jti = false)
      (by rw [unchanged]; exact notRevoked) ?_
    intro i revocation after before atRevoke holds
    rcases revocation_event prim reachable (List.mem_of_getElem? atRevoke)
      ⟨pipeID, exactInviteSubject, invite.jti⟩ with same | ⟨epoch, now, isRevoke⟩
    · rw [Store.isRevoked_congr same]
      exact holds
    · exact absurd (.invite atCheck sameThread isCheck atRevoke isRevoke after before) notOvertaken
  · have asked : (⟨.revocationEpoch pipeID pipeAccess pipeID,
        .ok invite.accessEpoch⟩ : StoreExchange) ∈
          exchangesOf event.thread (pool.history.take k) := by
      rw [checked]
      exact List.mem_cons_of_mem _ List.mem_cons_self
    obtain ⟨a, check, below, atCheck, sameThread, isCheck⟩ :=
      mem_exchangesOf_take.mp asked
    obtain ⟨current, unchanged⟩ := (reachable.exec_of_mem
      (List.mem_of_getElem? atCheck) isCheck).revocationEpoch_ok
    refine reachable.until_event atCheck atCommit below
      (P := fun s => s.revocationEpoch pipeID pipeAccess pipeID = invite.accessEpoch)
      (by rw [unchanged]; exact current) ?_
    intro i revocation after before atRevoke holds
    have member := List.mem_of_getElem? atRevoke
    rcases revocation_event prim reachable member ⟨pipeID, pipeAccess, pipeID⟩
      with same | ⟨epoch, now, isRevoke⟩
    · rw [Store.revocationEpoch_congr same]
      exact holds
    · -- A `Revoke` that does not raise the epoch leaves it as it is.
      have bound := (StoreExec.grows (reachable.exec_of_mem member
        isRevoke)).revocationEpoch_le pipeID pipeAccess pipeID
      rcases Nat.eq_or_lt_of_le bound with same | raised
      · rw [← same]
        exact holds
      · exact absurd (.epoch atCheck sameThread isCheck atRevoke isRevoke
          raised after before) notOvertaken

/-- A redemption that was overtaken commits while the invite is not good. -/
theorem not_good_of_overtaken (atCommit : pool.history[k]? = some event)
    (checked : exchangesOf event.thread (pool.history.take k) = redeemReads pipeID invite)
    (overtaken : AccessWorld.Overtaken pool.toWorld k event.thread invite.jti pipeID) :
    ¬event.before.Good invite.jti pipeID invite.accessEpoch := by
  have ordered := reachable.ordered Store.Grows.refl Store.Grows.trans
    fun _ _ _ _ effect => StoreExec.grows effect
  rintro ⟨notRevoked, current⟩
  cases overtaken with
  | invite atCheck sameThread isCheck atRevoke isRevoke after before =>
    have revoked := Store.revoke_isRevoked_self (reachable.exec_of_mem
      (List.mem_of_getElem? atRevoke) isRevoke).revoke_ok
    have still := (ordered.at_index atRevoke atCommit before).isRevoked
      revoked
    rw [notRevoked] at still
    cases still
  | epoch atCheck sameThread isCheck atRevoke isRevoke raised after before =>
    -- The epoch that was checked is the epoch of the invite.
    have asked := mem_exchangesOf_take.mpr
      ⟨_, _, Nat.lt_trans after before, atCheck, sameThread, isCheck⟩
    rw [checked] at asked
    obtain rfl : _ = invite.accessEpoch := by simpa [redeemReads] using asked
    obtain ⟨seen, unchanged⟩ := (reachable.exec_of_mem
      (List.mem_of_getElem? atCheck) isCheck).revocationEpoch_ok
    have atOrBelow := (ordered.at_index atCheck atRevoke
      after).revocationEpoch_le pipeID pipeAccess pipeID
    have above := (ordered.at_index atRevoke atCommit
      before).revocationEpoch_le pipeID pipeAccess pipeID
    rw [unchanged, seen] at atOrBelow
    omega

/-! ## Relationships along a run without overtaken redemptions -/

/-- An event at which every first redemption commits a good invite keeps
relationships current and takes none of them back. -/
theorem relationships_advance (member : event ∈ pool.history) (good : ∀ jti pipeID recipient epoch,
      AccessWorld.FirstRedemption pool.toWorld event jti pipeID recipient
        epoch → event.before.Good jti pipeID epoch)
    (current : event.before.Current) : event.after.Current ∧ event.before.Advances event.after := by
  rcases reachable.unchanged_or_exec member with
    unchanged | ⟨command, response, isRan, effect⟩
  · rw [unchanged]
    exact ⟨current, Store.Advances.refl _⟩
  · have grows : event.before.Grows event.after := StoreExec.grows effect
    -- A row after the event is old, or of the epoch stored before the event.
    have source : ∀ key row, event.after.acceptedExactRelationships.lookup key = some row →
        event.before.acceptedExactRelationships.lookup key = some row ∨
          row.accessEpoch = event.before.revocationEpoch key.pipeID pipeAccess
            key.pipeID := by
      intro key row present
      rcases StoreExec.relationship_source effect present with
        old | ⟨sessionID, now, exchanged, absent⟩
      · exact Or.inl old
      · cases exchanged
        exact Or.inr (good _ _ _ _ ⟨member, ⟨sessionID, now, isRan⟩, absent⟩).2.symm
    refine ⟨?_, ?_⟩
    · intro key row present
      have bound := grows.revocationEpoch_le key.pipeID pipeAccess key.pipeID
      rcases source key row present with old | same
      · exact Nat.le_trans (current key row old) bound
      · rw [same]
        exact bound
    · intro key row present
      obtain ⟨later, presentLater⟩ := Option.isSome_iff_exists.mp
        (grows.relationships key (Option.isSome_iff_exists.mpr ⟨row, present⟩))
      refine ⟨later, presentLater, ?_⟩
      rcases source key later presentLater with old | same
      · grind
      · rw [same]
        exact current key row present

end Atomicity

/-- **Atomicity of redemption.**  Take any interleaving of the calls on the exact
path, started under any policy, from a database whose relationships are not
ahead of their epochs.

* The first redemption of an invite commits while the invite is not revoked and
  the stored epoch is the epoch of the invite, exactly if no revocation overtook
  it between its checks and the commit.
* If no first redemption is overtaken, then from any event to any later one the
  epoch of an accepted relationship does not decrease. -/
theorem redemption_atomic_iff {admits : List AccessEvent → AccessCall → Prop} {start : Store}
    {pool : AccessPool} (reachable : (accessSystemUnder prim admits).Reachable start pool)
    (current : start.Current) :
    (∀ k event jti pipeID recipient epoch, pool.history[k]? = some event →
      AccessWorld.FirstRedemption pool.toWorld event jti pipeID recipient epoch →
      (∃ invite, AccessWorld.Redeems prim pool.toWorld event.thread invite ∧
        invite.jti = jti ∧ invite.audiencePipeID = pipeID ∧
        invite.accessEpoch = epoch) ∧
      ((event.before.isRevoked pipeID exactInviteSubject jti = false ∧
          event.before.revocationEpoch pipeID pipeAccess pipeID = epoch) ↔
        ¬AccessWorld.Overtaken pool.toWorld k event.thread jti pipeID)) ∧
    ((∀ k event jti pipeID recipient epoch, pool.history[k]? = some event →
        AccessWorld.FirstRedemption pool.toWorld event jti pipeID recipient epoch →
        ¬AccessWorld.Overtaken pool.toWorld k event.thread jti pipeID) →
      ∀ (i j : ℕ) (earlier later : AccessEvent),
        pool.history[i]? = some earlier → pool.history[j]? = some later →
        i ≤ j →
        earlier.before.Advances later.after) := by
  have atomic : ∀ k event jti pipeID recipient epoch, pool.history[k]? = some event →
      AccessWorld.FirstRedemption pool.toWorld event jti pipeID recipient epoch →
      (∃ invite, AccessWorld.Redeems prim pool.toWorld event.thread invite ∧
        invite.jti = jti ∧ invite.audiencePipeID = pipeID ∧
        invite.accessEpoch = epoch) ∧
      (event.before.Good jti pipeID epoch ↔
        ¬AccessWorld.Overtaken pool.toWorld k event.thread jti pipeID) := by
    rintro k event jti pipeID recipient epoch atCommit ⟨-, ⟨_, _, isRan⟩, -⟩
    obtain ⟨secretsDir, r, invite, runs, presents, rfl, rfl, checked⟩ :=
      redemption_checked prim reachable atCommit isRan
    refine ⟨⟨invite, ⟨secretsDir, pipeID, r, runs, presents.decoded⟩, rfl,
      presents.audience, rfl⟩, ?_, ?_⟩
    · grind [not_good_of_overtaken]
    · exact good_of_not_overtaken prim reachable atCommit checked
  refine ⟨atomic, ?_⟩
  intro notOvertaken
  have good : ∀ event ∈ pool.history, ∀ jti pipeID recipient epoch,
      AccessWorld.FirstRedemption pool.toWorld event jti pipeID recipient
        epoch → event.before.Good jti pipeID epoch := by
    intro event member jti pipeID recipient epoch first
    obtain ⟨k, atCommit⟩ := List.mem_iff_getElem?.mp member
    grind
  have step : ∀ event ∈ pool.history, event.before.Advances event.after := by
    obtain ⟨-, currentBefore⟩ := reachable.along current fun event member holds =>
        (relationships_advance prim reachable member (good event member) holds).1
    exact fun event member => (relationships_advance prim reachable member
      (good event member) (currentBefore event member)).2
  intro i j earlier later atEarlier atLater ordered
  have first := step earlier (List.mem_of_getElem? atEarlier)
  rcases Nat.eq_or_lt_of_le ordered with rfl | before
  · grind
  · have reached : earlier.before.Advances later.before :=
      reachable.until_event atEarlier atLater before first fun m event _ _ atEvent holds =>
          holds.trans (step event (List.mem_of_getElem? atEvent))
    exact reached.trans (step later (List.mem_of_getElem? atLater))

/-! ### A redemption that is overtaken -/

/-- The Pipe is shared at epoch 0 and the redemption of that invite makes its
checks.  A revocation raises the epoch to 1, the Pipe is shared again, and the
same recipient redeems the new invite.  Then the first redemption commits. -/
def overtakenPool : AccessPool :=
  play (accessSystem plain) Store.execute
    [.spawn (.share (plainShare 0)), .move 0, .move 0, .move 0,
      .spawn (.redeem (str "secrets") plainPipeID (plainRedeem 0)),
      .move 1, .move 1,
      .spawn (.revoke plainPipeID pipeAccess plainPipeID 1 dawn), .move 2,
      .spawn (.share (plainShare 1)), .move 3, .move 3, .move 3,
      .spawn (.redeem (str "secrets") plainPipeID (plainRedeem 1)),
      .move 4, .move 4, .move 4, .move 1]
    (Pool.start plainStore)

theorem overtakenPool_reachable : (accessSystem plain).Reachable plainStore overtakenPool := by
  refine play_reachable storeExec_execute (System.Reachable.start _)
    ⟨trivial, ?_, trivial, trivial, ?_, trivial⟩
  · intro invite decoded _ _
    obtain rfl : plainInvite 0 = invite := Except.ok.inj decoded
    exact ⟨_, List.mem_of_getElem? (i := 3) rfl, _, rfl, rfl⟩
  · intro invite decoded _ _
    obtain rfl : plainInvite 1 = invite := Except.ok.inj decoded
    exact ⟨_, List.mem_of_getElem? (i := 12) rfl, _, rfl, rfl⟩

theorem plainStore_current : plainStore.Current := by
  intro key row present
  cases present

set_option maxRecDepth 2000 in
theorem redemption_overtaken : (accessSystem plain).Reachable plainStore overtakenPool ∧
      plainStore.Current ∧
      ∃ event, overtakenPool.history[17]? = some event ∧
        AccessWorld.FirstRedemption overtakenPool.toWorld event
          (plainInvite 0).jti plainPipeID (plainPublic recipientSecret) 0 ∧
        event.before.revocationEpoch plainPipeID pipeAccess plainPipeID = 1 ∧
        event.before.acceptedRelationship plainPipeID
          (plainPublic recipientSecret) = .ok (some ((plainInvite 1).jti, 1)) ∧
        event.after.acceptedRelationship plainPipeID (plainPublic recipientSecret) =
            .ok (some ((plainInvite 0).jti, 0)) :=
  ⟨overtakenPool_reachable, plainStore_current, _, rfl,
    ⟨List.mem_of_getElem? (i := 17) rfl, ⟨_, _, rfl⟩, rfl⟩, rfl, rfl, rfl⟩

/-- In the run of the fence nothing is overtaken. -/
theorem redemption_atomic_iff_reshared : ∃ event, resharedPool.history[10]? = some event ∧
      AccessWorld.FirstRedemption resharedPool.toWorld event
        (plainInvite 1).jti plainPipeID (plainPublic recipientSecret) 1 ∧
      ¬AccessWorld.Overtaken resharedPool.toWorld 10 event.thread
        (plainInvite 1).jti plainPipeID := by
  have first : ∃ event, resharedPool.history[10]? = some event ∧
      AccessWorld.FirstRedemption resharedPool.toWorld event
        (plainInvite 1).jti plainPipeID (plainPublic recipientSecret) 1 ∧
      event.before.isRevoked plainPipeID exactInviteSubject (plainInvite 1).jti = false ∧
      event.before.revocationEpoch plainPipeID pipeAccess plainPipeID = 1 :=
    ⟨_, rfl, ⟨List.mem_of_getElem? (i := 10) rfl, ⟨_, _, rfl⟩, rfl⟩, rfl, rfl⟩
  obtain ⟨event, atCommit, committed, good⟩ := first
  refine ⟨event, atCommit, committed, ?_⟩
  have reachable : (accessSystemUnder plain (Unforged plain)).Reachable
      plainStore resharedPool := resharedPool_reachable
  exact ((redemption_atomic_iff plain reachable plainStore_current).1 10 event
    _ _ _ _ atCommit committed).2.mp good

end Tubo
