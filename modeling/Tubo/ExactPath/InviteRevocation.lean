import Tubo.ExactPath.RevokeCommand
import Tubo.Store.Migrate

/-!
# What `revoke invite` achieves

A renewal asks whether the invite behind the accepted relationship is revoked as
an exact invite of its Pipe.  The command finds the row to write by looking for
a redemption of the invite that is marked as exact; if there is none, it revokes
a share in the current Scope, which no renewal reads.

The redemptions of a database before schema 14 are not marked.  So the
relationships of such a database — those of schema 13, and those the migration
reconstructs from even older redemptions — cannot be revoked by their invite.
`revokeInvite_denies_iff` states this for every database and everything that is
redeemed after it was opened.
-/

namespace Tubo

variable (prim : Primitives)

/-! ## The evidence -/

namespace Store

variable {s : Store} {jti pipeID : GoString}

/-- A Pipe found for an invite has a redemption of it that is marked as exact. -/
theorem exactRedemptionPipeForInvite_some
    (found : s.exactRedemptionPipeForInvite jti = .ok (some pipeID)) :
    ∃ row, s.inviteRedemptions.lookup ⟨jti, pipeID⟩ = some row ∧ row.kind = .exact := by
  unfold exactRedemptionPipeForInvite at found
  simp only [bind_eq_ok, pure, Except.pure, Except.ok.injEq, Option.map_eq_some_iff] at found
  obtain ⟨-, -, ⟨key, row⟩, first, rfl⟩ := found
  have member := List.mem_of_find?_eq_some first
  have marked := List.find?_some first
  simp only [Bool.and_eq_true, beq_iff_eq] at marked
  refine ⟨row, ?_, marked.2⟩
  rw [← marked.1]
  exact AList.mem_lookup_iff.mpr member

/-- If no Pipe is found, no redemption of the invite is marked as exact. -/
theorem exactRedemptionPipeForInvite_none
    (found : s.exactRedemptionPipeForInvite jti = .ok none) {row : Redemption}
    (present : s.inviteRedemptions.lookup ⟨jti, pipeID⟩ = some row) : row.kind ≠ .exact := by
  unfold exactRedemptionPipeForInvite at found
  simp only [bind_eq_ok, pure, Except.pure, Except.ok.injEq,
    Option.map_eq_none_iff, List.find?_eq_none] at found
  have member := AList.mem_lookup_iff.mp present
  grind

end Store

/-! ## What a renewal reads -/

/-- Two databases with the same relationship of a recipient, and with the same
revocations that a renewal for it asks for. -/
structure Store.RenewsAlike (pipeID recipient : GoString) (s t : Store) :
    Prop where
  relationship : s.acceptedExactRelationships.lookup ⟨pipeID, recipient⟩ =
      t.acceptedExactRelationships.lookup ⟨pipeID, recipient⟩
  revocations : ∀ key : RevocationKey, key.subjectType ≠ shareInviteSubject →
    s.revocations.lookup key = t.revocations.lookup key

theorem exactInviteSubject_ne_share : exactInviteSubject ≠ shareInviteSubject := by decide

theorem pipeAccess_ne_share : pipeAccess ≠ shareInviteSubject := by decide

/-- Whatever a renewal asks, databases that renew alike give the same answer. -/
theorem Store.RenewsAlike.execute {pipeID : GoString} {r : RenewRequest}
    {s t : Store} (alike : s.RenewsAlike pipeID r.recipientPublic t) {command : StoreCommand}
    (reads : ∃ history, RenewAsks pipeID r history command) :
    (Store.execute command s).1 = (Store.execute command t).1 ∧
      (Store.execute command s).2.RenewsAlike pipeID r.recipientPublic
        (Store.execute command t).2 := by
  obtain ⟨history, asks⟩ := reads
  cases asks with
  | relationship =>
    refine ⟨?_, alike⟩
    simp only [Store.execute, Store.acceptedRelationship]
    rw [alike.relationship]
  | revoked jti epoch =>
    refine ⟨?_, alike⟩
    simp only [Store.execute]
    exact congrArg _ (Store.isRevoked_congr (alike.revocations _ exactInviteSubject_ne_share))
  | epoch jti epoch =>
    refine ⟨?_, alike⟩
    simp only [Store.execute]
    exact congrArg _ (Store.revocationEpoch_congr (alike.revocations _ pipeAccess_ne_share))

/-- Renewals have the same outcome on databases that renew alike. -/
theorem Store.RenewsAlike.outcome {pipeID : GoString} {r : RenewRequest}
    {s t : Store} (alike : s.RenewsAlike pipeID r.recipientPublic t) :
    ((renewAcceptedAccess prim pipeID pipeID r).run Store.execute s).1 =
      ((renewAcceptedAccess prim pipeID pipeID r).run Store.execute t).1 :=
  (((renewAcceptedAccess_conduct prim pipeID r).weaken
    fun history _ asks => ⟨history, asks⟩).run_agree
      (fun _ _ _ reads related => related.execute reads) alike).1

/-! ## The command -/

/-- Every renewal of the recipient is refused, now and after any redemptions, as
long as the relationship rests on this invite. -/
def InviteDenied (pipeID recipient jti : GoString) (s : Store) : Prop :=
  ∀ later epoch, s.RedeemsTo later →
    later.acceptedRelationship pipeID recipient = .ok (some (jti, epoch)) →
    ∀ r : RenewRequest, r.recipientPublic = recipient →
      Refused ((renewAcceptedAccess prim pipeID pipeID r).run Store.execute later).1

section Command

variable {prim} {authority : GoString → GoString → GoString → ℕ →
    Except GoError Unit} {s after : Store} {jti : GoString} {now : Time}
  {subject : RevokeSubject}

/-- Where `revoke invite` files an identifier: by the evidence. -/
theorem revokeInvite_run (notToken : ∀ invite, decodeInvite prim jti ≠ .ok invite)
    (revoked : (revoke prim (str "invite") jti now).run (executeCli authority)
      s = (.ok subject, after)) :
    ((∃ pipeID, s.exactRedemptionPipeForInvite jti = .ok (some pipeID) ∧
          subject = ⟨exactInviteSubject, pipeID, jti⟩) ∨
        (s.exactRedemptionPipeForInvite jti = .ok none ∧ subject.typeName = shareInviteSubject)) ∧
      ((s.memberships.lookup subject.scope ≠ none ∧ after = s) ∨
        ∃ epoch, s.revoke subject.scope subject.typeName subject.id epoch now = .ok after) := by
  obtain ⟨resolved, written⟩ := revoke_run revoked
  grind [resolveInvite_run, resolveByEvidence_run, resolveSubject]

/-- Writing a share, here or elsewhere, changes nothing that a renewal reads. -/
theorem RenewsAlike.of_share (pipeID recipient : GoString)
    (isShare : subject.typeName = shareInviteSubject)
    (written : (s.memberships.lookup subject.scope ≠ none ∧ after = s) ∨
      ∃ epoch, s.revoke subject.scope subject.typeName subject.id epoch now = .ok after) :
    after.RenewsAlike pipeID recipient s ∧ after.inviteRedemptions = s.inviteRedemptions := by
  rcases written with ⟨-, rfl⟩ | ⟨epoch, stored⟩
  · exact ⟨⟨rfl, fun _ _ => rfl⟩, rfl⟩
  · refine ⟨⟨?_, ?_⟩, ?_⟩
    · obtain ⟨-, -, rfl⟩ := Store.revoke_eq_ok stored
      rfl
    · intro key notShare
      refine Store.revoke_lookup_other stored ?_
      rintro rfl
      exact notShare isShare
    · obtain ⟨-, -, rfl⟩ := Store.revoke_eq_ok stored
      rfl

end Command

/-- A revoked exact invite denies every renewal that rests on it. -/
theorem InviteDenied.of_revoked {pipeID recipient jti : GoString} {s : Store}
    (revoked : s.isRevoked pipeID exactInviteSubject jti = true) :
    InviteDenied prim pipeID recipient jti s := by
  intro later epoch redeems accepted r requested
  by_contra notRefused
  obtain ⟨lease, renewed⟩ := not_refused_iff.mp notRefused
  obtain ⟨behind, _, found, notRevoked, -⟩ :=
    renewAcceptedAccess_run_ok prim renewed
  rw [requested, accepted] at found
  cases found
  rw [redeems.grows.isRevoked revoked] at notRevoked
  cases notRevoked

/-- **What `revoke invite` achieves.**  Open a database of any schema, redeem
anything, and let the command succeed for the invite behind an accepted
relationship of a Pipe.  Then renewals of that relationship are denied until
another invite is accepted, exactly if the opened database did not record the
redemption as Scope-based (which every database before schema 14 does), or if
they were refused before. -/
theorem revokeInvite_denies_iff {db : Database} {opened s after : Store}
    {authority : GoString → GoString → GoString → ℕ → Except GoError Unit}
    {jti pipeID recipient : GoString} {epoch : ℕ} {now : Time}
    {subject : RevokeSubject} (migrated : migrate db = .ok opened) (redeemed : opened.RedeemsTo s)
    (accepted : s.acceptedRelationship pipeID recipient = .ok (some (jti, epoch)))
    (onePipe : ∀ other row, s.inviteRedemptions.lookup ⟨jti, other⟩ = some row → other = pipeID)
    (notToken : ∀ invite, decodeInvite prim jti ≠ .ok invite)
    (notMember : s.memberships.lookup pipeID = none)
    (revoked : (revoke prim (str "invite") jti now).run (executeCli authority)
      s = (.ok subject, after)) :
    InviteDenied prim pipeID recipient jti after ↔ ¬db.RecordsScoped jti pipeID ∨
        ∀ r : RenewRequest, r.recipientPublic = recipient →
          Refused ((renewAcceptedAccess prim pipeID pipeID r).run Store.execute s).1 := by
  have backed := redeemed.backed (migrate_backed migrated)
  obtain ⟨row, found, rfl, rfl⟩ := Store.acceptedRelationship_eq_some accepted
  have marked := backed.exact_iff found
  obtain ⟨redemption, present, -⟩ := backed.backed _ row found
  obtain ⟨⟨pipe, evidence, rfl⟩ | ⟨noEvidence, isShare⟩, written⟩ :=
    revokeInvite_run notToken revoked
  · -- The evidence names the Pipe, and the row is written where renewals look.
    obtain ⟨exactRow, exactPresent, isExact⟩ :=
      Store.exactRedemptionPipeForInvite_some evidence
    obtain rfl := onePipe pipe exactRow exactPresent
    refine iff_of_true (InviteDenied.of_revoked prim ?_)
      (Or.inl (marked.mp ⟨exactRow, exactPresent, isExact⟩))
    rcases written with ⟨member, -⟩ | ⟨_, stored⟩
    · exact absurd notMember member
    · exact Store.revoke_isRevoked_self stored
  · -- The command wrote a share, so renewals go on as before.
    have scopedRow : db.RecordsScoped row.inviteJTI pipeID := by
      by_contra notScoped
      obtain ⟨exactRow, exactPresent, isExact⟩ := marked.mpr notScoped
      exact Store.exactRedemptionPipeForInvite_none noEvidence exactPresent
        isExact
    obtain ⟨alike, sameRedemptions⟩ :=
      RenewsAlike.of_share pipeID recipient isShare written
    constructor
    · intro denied
      refine Or.inr ?_
      rintro r rfl
      rw [← alike.outcome prim]
      refine denied after row.accessEpoch .refl ?_ r rfl
      rw [← accepted, Store.acceptedRelationship, alike.relationship]
      rfl
    · rintro (notScoped | refused)
      · exact absurd scopedRow notScoped
      · rintro later laterEpoch redeems stillAccepted r rfl
        obtain ⟨laterRow, laterFound, sameInvite, -⟩ :=
          Store.acceptedRelationship_eq_some stillAccepted
        have unchanged := Store.RedeemsTo.relationship redeems
          (by rw [sameInvite, sameRedemptions]; exact present) laterFound
        have laterAlike : later.RenewsAlike pipeID r.recipientPublic s := by
          refine ⟨?_, ?_⟩
          · rw [laterFound, ← unchanged, alike.relationship]
          · intro key notShare
            rw [Store.RedeemsTo.revocations redeems]
            exact alike.revocations key notShare
        rw [laterAlike.outcome prim]
        exact refused r rfl

/-! ## A database of schema 12

One redemption was recorded before the upgrade; after it the same recipient
redeems a second invite. -/

def oldInvite : GoString := str "jti_old"

def newInvite : GoString := str "jti_new"

def oldRedemptions : Table RedemptionKey UnmarkedRedemption :=
  (∅ : Table RedemptionKey UnmarkedRedemption).insert ⟨oldInvite, plainPipeID⟩
    ⟨dawn.formatRFC3339Nano, str "ses_old", plainPublic recipientSecret⟩

def oldDatabase : Database where
  version := some 12
  redemptions := .unmarked oldRedemptions
  relationships := ∅
  revocations := ∅
  pipes := plainStore.pipes
  scopes := (∅ : Table GoString ScopeRow).insert (str "home/default") ⟨[], [], []⟩
  memberships := ∅
  remotePipeBindings := ∅
  exactLeaseCache := ∅
  currentScope := str "home/default"
  backed := by
    intro key row found
    cases found

def openedStore : Store :=
  match migrate oldDatabase with
  | .ok s => s
  | .error _ => {}

/-- The authority of a Scope that answers nothing. -/
def silent : GoString → GoString → GoString → ℕ → Except GoError Unit :=
  fun _ _ _ _ => .error errNotFound

def revokedOld : Except GoError RevokeSubject × Store :=
  (revoke plain (str "invite") oldInvite dawn).run (executeCli silent)
    openedStore

/-- The migrated relationship rests on the old invite; `revoke invite` succeeds
for it, and renewals go on. -/
theorem revokeInvite_migrated : migrate oldDatabase = .ok openedStore ∧
      openedStore.acceptedRelationship plainPipeID
          (plainPublic recipientSecret) = .ok (some (oldInvite, 0)) ∧
      revokedOld.1 = .ok ⟨shareInviteSubject, str "home/default", oldInvite⟩ ∧
      revokedOld.2.acceptedRelationship plainPipeID
          (plainPublic recipientSecret) = .ok (some (oldInvite, 0)) ∧
      ¬Refused ((renewAcceptedAccess plain plainPipeID plainPipeID
        (plainRenew 0)).run Store.execute revokedOld.2).1 :=
  ⟨rfl, rfl, rfl, rfl, not_refused_iff.mpr ⟨_, rfl⟩⟩

def replacedStore : Store :=
  openedStore.acceptFirst newInvite plainPipeID (str "ses_new")
    (plainPublic recipientSecret) 0 dawn.utc.formatRFC3339Nano

def revokedNew : Except GoError RevokeSubject × Store :=
  (revoke plain (str "invite") newInvite dawn).run (executeCli silent)
    replacedStore

theorem replacedStore_redeemed : openedStore.RedeemsTo replacedStore := by
  have accepted : openedStore.redeemInviteAndAccept newInvite plainPipeID
      (str "ses_new") (plainPublic recipientSecret) 0 dawn = .ok (true, replacedStore) := rfl
  exact .single (.accept accepted)

theorem newInvite_notToken (invite : ExactInvite) : decodeInvite plain newInvite ≠ .ok invite := by
  have malformed : decodeInvite plain newInvite = .error errStrict := rfl
  exact nofun

theorem oldDatabase_notScoped : ¬oldDatabase.RecordsScoped newInvite plainPipeID := by
  rintro ⟨redemption, found, -⟩
  cases found

theorem replacedStore_onePipe (other : GoString) (row : Redemption)
    (present : replacedStore.inviteRedemptions.lookup ⟨newInvite, other⟩ =
      some row) : other = plainPipeID := by
  by_contra different
  rw [replacedStore, Store.acceptFirst_inviteRedemptions,
    AList.lookup_insert_ne (by simpa using different)] at present
  have absent : openedStore.inviteRedemptions.lookup ⟨newInvite, other⟩ =
      none := by
    show (Table.mapRows UnmarkedRedemption.withDefaultKind
      oldRedemptions).lookup ⟨newInvite, other⟩ = none
    rfl
  cases present

/-- The invite that was redeemed after the upgrade can be revoked. -/
theorem revokeInvite_denies_iff_replaced :
    revokedNew.1 = .ok ⟨exactInviteSubject, plainPipeID, newInvite⟩ ∧
      InviteDenied plain plainPipeID (plainPublic recipientSecret) newInvite
        revokedNew.2 := by
  have migrated : migrate oldDatabase = .ok openedStore := rfl
  exact ⟨rfl, (revokeInvite_denies_iff plain migrated replacedStore_redeemed rfl
    replacedStore_onePipe newInvite_notToken rfl rfl).mpr (Or.inl oldDatabase_notScoped)⟩

end Tubo
