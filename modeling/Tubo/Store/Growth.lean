import Tubo.Store.Access

/-!
# What the access tables never do

Every command on the database moves it up in one preorder, `Store.Grows`:
revocations are never removed and their epochs never decrease, a redemption row
never changes once it is written, and an accepted relationship is replaced but
never removed.  The invariants of the access path rest on this relation and on
two inversion lemmas, one for each transaction that writes.
-/

namespace Tubo

namespace Store

/-! ## The two writing transactions -/

/-- The database after a first redemption: the redemption row and the
relationship are written together. -/
def acceptFirst (s : Store) (jti pipeID sessionID clientPublic : GoString)
    (accessEpoch : ℕ) (stamp : GoString) : Store :=
  let row : Redemption := ⟨stamp, sessionID, clientPublic, .exact⟩
  let redeemed : Store :=
    { s with inviteRedemptions := s.inviteRedemptions.insert ⟨jti, pipeID⟩ row }
  redeemed.putRelationship ⟨pipeID, clientPublic⟩ jti accessEpoch stamp

section AcceptFirst

variable (s : Store) (jti pipeID sessionID clientPublic : GoString)
  (accessEpoch : ℕ) (stamp : GoString)

@[simp]
theorem acceptFirst_inviteRedemptions : (s.acceptFirst jti pipeID sessionID clientPublic accessEpoch
      stamp).inviteRedemptions =
      s.inviteRedemptions.insert ⟨jti, pipeID⟩ ⟨stamp, sessionID, clientPublic, .exact⟩ := rfl

theorem acceptFirst_relationship_self : ∃ acceptedAt,
      (s.acceptFirst jti pipeID sessionID clientPublic accessEpoch
        stamp).acceptedExactRelationships.lookup ⟨pipeID, clientPublic⟩ =
        some ⟨jti, accessEpoch, acceptedAt, stamp⟩ :=
  ⟨_, AList.lookup_insert _⟩

theorem acceptFirst_relationship_other {key : RelationshipKey}
    (different : key ≠ ⟨pipeID, clientPublic⟩) :
    (s.acceptFirst jti pipeID sessionID clientPublic accessEpoch
      stamp).acceptedExactRelationships.lookup key =
      s.acceptedExactRelationships.lookup key :=
  AList.lookup_insert_ne different

end AcceptFirst

variable {s after : Store} {now : Time} {epoch : ℕ} {scope subjectType subjectJTI : GoString}

/-- **Inversion of `RedeemInviteAndAccept`.**  A success is either a retry by
the recorded client, which changes nothing, or a first redemption. -/
theorem redeemInviteAndAccept_eq_ok
    {jti pipeID sessionID clientPublic : GoString} {accessEpoch : ℕ} {won : Bool}
    (accepted : s.redeemInviteAndAccept jti pipeID sessionID clientPublic
      accessEpoch now = .ok (won, after)) :
    won = true ∧ ((∃ row, s.inviteRedemptions.lookup ⟨jti, pipeID⟩ = some row ∧
          row.clientPublic = clientPublic ∧ after = s) ∨
        (s.inviteRedemptions.lookup ⟨jti, pipeID⟩ = none ∧
          after = s.acceptFirst jti pipeID sessionID clientPublic accessEpoch
            now.utc.formatRFC3339Nano)) := by
  unfold redeemInviteAndAccept at accepted
  simp only [bind_eq_ok] at accepted
  obtain ⟨-, -, accepted⟩ := accepted
  cases present : s.inviteRedemptions.lookup ⟨jti, pipeID⟩ with
  | some row =>
    simp only [Table.insertOrIgnore_some _ present, redemptionClient, present,
      bind_eq_ok, failIf_eq_ok, pure, Except.pure, Except.ok.injEq,
      Prod.mk.injEq] at accepted
    grind
  | none =>
    simp only [Table.insertOrIgnore_none _ present, bind_eq_ok, failIf_eq_ok,
      pure, Except.pure, Except.ok.injEq, Prod.mk.injEq] at accepted
    obtain ⟨-, -, rfl, rfl⟩ := accepted
    exact ⟨rfl, Or.inr ⟨rfl, rfl⟩⟩

/-- **Inversion of `AcceptedRelationship`.** -/
theorem acceptedRelationship_eq_some {pipeID clientPublic jti : GoString}
    (found : s.acceptedRelationship pipeID clientPublic = .ok (some (jti, epoch))) :
    ∃ row, s.acceptedExactRelationships.lookup ⟨pipeID, clientPublic⟩ =
      some row ∧ row.inviteJTI = jti ∧ row.accessEpoch = epoch := by
  unfold acceptedRelationship at found
  simp only [bind_eq_ok, failIf_eq_ok, pure, Except.pure, Except.ok.injEq,
    Option.map_eq_some_iff, Prod.mk.injEq] at found
  grind

/-- **Inversion of `Revoke`.**  A success writes exactly the row of its key,
and no larger epoch was stored there. -/
theorem revoke_eq_ok (revoked : s.revoke scope subjectType subjectJTI epoch now = .ok after) :
    0 < epoch ∧ s.revocationEpoch scope subjectType subjectJTI ≤ epoch ∧
      after = { s with
        revocations := s.revocations.insert ⟨scope, subjectType, subjectJTI⟩
          ⟨now.utc.formatRFC3339Nano, epoch⟩ } := by
  unfold revoke at revoked
  simp only [bind_eq_ok, failIf_eq_ok, pure, Except.pure, Except.ok.injEq] at revoked
  grind [revocationEpoch, putRevocation]

/-- A successful revocation has no blank argument. -/
theorem revoke_arguments (revoked : s.revoke scope subjectType subjectJTI epoch now = .ok after) :
    blank scope = false ∧ blank subjectType = false ∧ blank subjectJTI = false := by
  grind [bind_eq_ok, failIf_eq_ok, revoke]

/-- Whether a subject is revoked depends on one row. -/
theorem isRevoked_congr (same : after.revocations.lookup ⟨scope, subjectType, subjectJTI⟩ =
      s.revocations.lookup ⟨scope, subjectType, subjectJTI⟩) :
    after.isRevoked scope subjectType subjectJTI = s.isRevoked scope subjectType subjectJTI := by
  rw [isRevoked, same]
  rfl

/-- So does the epoch. -/
theorem revocationEpoch_congr (same : after.revocations.lookup ⟨scope, subjectType, subjectJTI⟩ =
      s.revocations.lookup ⟨scope, subjectType, subjectJTI⟩) :
    after.revocationEpoch scope subjectType subjectJTI =
      s.revocationEpoch scope subjectType subjectJTI := by
  rw [revocationEpoch, same]
  rfl

/-- A successful revocation fits its column. -/
theorem revoke_fits (revoked : s.revoke scope subjectType subjectJTI epoch now = .ok after) :
    epoch < int64Size := by
  grind [bind_eq_ok, failIf_eq_ok, revoke]

section Revoke

variable {s after : Store} {scope subjectType subjectJTI : GoString}
  {epoch : ℕ} {now : Time}
  (revoked : s.revoke scope subjectType subjectJTI epoch now = .ok after)
include revoked

theorem revoke_revocationEpoch_self :
    after.revocationEpoch scope subjectType subjectJTI = epoch := by
  obtain ⟨-, -, rfl⟩ := revoke_eq_ok revoked
  simp [revocationEpoch]

theorem revoke_isRevoked_self : after.isRevoked scope subjectType subjectJTI = true := by
  obtain ⟨-, -, rfl⟩ := revoke_eq_ok revoked
  simp [isRevoked]

theorem revoke_lookup_other {key : RevocationKey}
    (different : key ≠ ⟨scope, subjectType, subjectJTI⟩) :
    after.revocations.lookup key = s.revocations.lookup key := by
  obtain ⟨-, -, rfl⟩ := revoke_eq_ok revoked
  exact AList.lookup_insert_ne different

end Revoke

/-! ## The preorder -/

/-- The later database keeps what the earlier one recorded. -/
structure Grows (s after : Store) : Prop where
  revocations : ∀ key row, s.revocations.lookup key = some row →
    ∃ later, after.revocations.lookup key = some later ∧ row.epoch ≤ later.epoch
  redemptions : ∀ key row, s.inviteRedemptions.lookup key = some row →
    after.inviteRedemptions.lookup key = some row
  relationships : ∀ key, (s.acceptedExactRelationships.lookup key).isSome →
    (after.acceptedExactRelationships.lookup key).isSome

theorem Grows.refl (s : Store) : s.Grows s :=
  ⟨fun _ row present => ⟨row, present, le_rfl⟩, fun _ _ present => present,
    fun _ present => present⟩

variable {s after : Store} {scope subjectType subjectJTI jti pipeID : GoString} {now : Time}

theorem Grows.trans {t u : Store} (first : s.Grows t) (second : t.Grows u) : s.Grows u := by
  refine ⟨?_, ?_, ?_⟩
  · grind [Grows.revocations]
  · grind [Grows.redemptions]
  · grind [Grows.relationships]

/-- Epochs never decrease. -/
theorem Grows.revocationEpoch_le (grows : s.Grows after) (scope subjectType subjectJTI : GoString) :
    s.revocationEpoch scope subjectType subjectJTI ≤
      after.revocationEpoch scope subjectType subjectJTI := by
  grind [Grows.revocations, revocationEpoch]

/-- A revocation is never taken back. -/
theorem Grows.isRevoked (grows : s.Grows after)
    (revoked : s.isRevoked scope subjectType subjectJTI = true) :
    after.isRevoked scope subjectType subjectJTI = true := by
  obtain ⟨row, present⟩ := Option.isSome_iff_exists.mp revoked
  obtain ⟨later, presentLater, -⟩ := grows.revocations _ row present
  exact Option.isSome_iff_exists.mpr ⟨later, presentLater⟩

theorem revoke_grows {epoch : ℕ}
    (revoked : s.revoke scope subjectType subjectJTI epoch now = .ok after) : s.Grows after := by
  obtain ⟨-, bound, rfl⟩ := revoke_eq_ok revoked
  refine ⟨?_, fun _ _ present => present, fun _ present => present⟩
  grind [AList.lookup_insert, AList.lookup_insert_ne, revocationEpoch]

theorem insertRedemption_grows (s : Store)
    (jti pipeID sessionID clientPublic : GoString) (now : Time) :
    s.Grows (s.insertRedemption jti pipeID sessionID clientPublic now).2 :=
  ⟨fun _ row present => ⟨row, present, le_rfl⟩,
    fun _ _ present => Table.insertOrIgnore_lookup_of_some _ present,
    fun _ present => present⟩

theorem acceptFirst_grows (absent : s.inviteRedemptions.lookup ⟨jti, pipeID⟩ = none)
    (sessionID clientPublic : GoString) (accessEpoch : ℕ) (stamp : GoString) :
    s.Grows (s.acceptFirst jti pipeID sessionID clientPublic accessEpoch stamp) := by
  refine ⟨fun _ row present => ⟨row, present, le_rfl⟩, ?_, ?_⟩
  · grind [acceptFirst_inviteRedemptions, AList.lookup_insert_ne]
  · intro key present
    by_cases same : key = ⟨pipeID, clientPublic⟩
    · subst same
      obtain ⟨acceptedAt, written⟩ := s.acceptFirst_relationship_self jti
        pipeID sessionID clientPublic accessEpoch stamp
      rw [written]
      rfl
    · rw [acceptFirst_relationship_other _ _ _ _ _ _ _ same]
      exact present

theorem redeemInviteAndAccept_grows
    {sessionID clientPublic : GoString} {accessEpoch : ℕ} {won : Bool}
    (accepted : s.redeemInviteAndAccept jti pipeID sessionID clientPublic
      accessEpoch now = .ok (won, after)) : s.Grows after := by
  obtain ⟨-, ⟨_, -, -, rfl⟩ | ⟨absent, rfl⟩⟩ :=
    redeemInviteAndAccept_eq_ok accepted
  · exact Grows.refl _
  · exact acceptFirst_grows absent _ _ _ _

end Store

/-! ## Every command grows the database -/

variable {c : StoreCommand} {s after : Store} {response : c.Response}

/-- What a command does to the database: nothing, a revocation, an insertion of
`RedeemInvite`, or a redemption with acceptance. -/
theorem StoreExec.cases (effect : StoreExec c s response after) :
    after = s ∨ (∃ scope subjectType subjectJTI epoch now, (⟨c, response⟩ : StoreExchange) =
            ⟨.revoke scope subjectType subjectJTI epoch now, .ok ()⟩ ∧
          s.revoke scope subjectType subjectJTI epoch now = .ok after) ∨
      (∃ jti pipeID sessionID clientPublic now,
        c = .insertRedemption jti pipeID sessionID clientPublic now ∧ after =
            (s.insertRedemption jti pipeID sessionID clientPublic now).2) ∨
      (∃ jti pipeID sessionID clientPublic accessEpoch now won, (⟨c, response⟩ : StoreExchange) =
            ⟨.redeemInviteAndAccept jti pipeID sessionID clientPublic accessEpoch now, .ok won⟩ ∧
          s.redeemInviteAndAccept jti pipeID sessionID clientPublic
            accessEpoch now = .ok (won, after)) := by
  rcases effect with ran | ⟨_, -, unchanged⟩
  · cases c with
    | revoke scope subjectType subjectJTI epoch now =>
      simp only [Store.execute] at ran
      cases outcome : s.revoke scope subjectType subjectJTI epoch now with
      | error error =>
        rw [outcome] at ran
        exact Or.inl (Prod.mk.inj ran).2
      | ok written =>
        rw [outcome] at ran
        obtain ⟨rfl, rfl⟩ := Prod.mk.inj ran
        exact Or.inr (Or.inl ⟨_, _, _, _, _, rfl, outcome⟩)
    | insertRedemption jti pipeID sessionID clientPublic now =>
      exact Or.inr (Or.inr (Or.inl ⟨_, _, _, _, _, rfl, (Prod.mk.inj ran).2⟩))
    | redeemInviteAndAccept jti pipeID sessionID clientPublic epoch now =>
      simp only [Store.execute] at ran
      cases outcome : s.redeemInviteAndAccept jti pipeID sessionID clientPublic epoch now with
      | error error =>
        rw [outcome] at ran
        exact Or.inl (Prod.mk.inj ran).2
      | ok result =>
        rw [outcome] at ran
        obtain ⟨rfl, rfl⟩ := Prod.mk.inj ran
        exact Or.inr (Or.inr (Or.inr ⟨_, _, _, _, _, _, _, rfl, outcome⟩))
    | _ => exact Or.inl (Prod.mk.inj ran).2
  · exact Or.inl unchanged

theorem StoreExec.grows (effect : StoreExec c s response after) : s.Grows after := by
  rcases effect.cases with
    rfl | ⟨_, _, _, _, _, -, revoked⟩ | ⟨_, _, _, _, _, -, rfl⟩ |
      ⟨_, _, _, _, _, _, _, -, accepted⟩
  · exact Store.Grows.refl _
  · exact Store.revoke_grows revoked
  · exact Store.insertRedemption_grows _ _ _ _ _ _
  · exact Store.redeemInviteAndAccept_grows accepted

/-- A revocation row after a command was there before, or the command is the
`Revoke` that wrote it. -/
theorem StoreExec.revocation_source (effect : StoreExec c s response after) (key : RevocationKey) :
    after.revocations.lookup key = s.revocations.lookup key ∨
      ∃ epoch now, (⟨c, response⟩ : StoreExchange) =
        ⟨.revoke key.scope key.subjectType key.subjectJTI epoch now, .ok ()⟩ := by
  rcases effect.cases with
    rfl | ⟨scope, subjectType, subjectJTI, epoch, now, exchanged, revoked⟩ |
      ⟨_, _, _, _, _, -, rfl⟩ | ⟨_, _, _, _, _, _, _, -, accepted⟩
  · exact Or.inl rfl
  · by_cases same : key = ⟨scope, subjectType, subjectJTI⟩
    · subst same
      exact Or.inr ⟨epoch, now, exchanged⟩
    · exact Or.inl (Store.revoke_lookup_other revoked same)
  · exact Or.inl rfl
  · obtain ⟨-, ⟨_, -, -, rfl⟩ | ⟨-, rfl⟩⟩ :=
      Store.redeemInviteAndAccept_eq_ok accepted
    · exact Or.inl rfl
    · exact Or.inl rfl

/-- A relationship after a command was there before, or the command is the
first redemption that wrote it. -/
theorem StoreExec.relationship_source (effect : StoreExec c s response after)
    {key : RelationshipKey} {row : Relationship}
    (present : after.acceptedExactRelationships.lookup key = some row) :
    s.acceptedExactRelationships.lookup key = some row ∨ ∃ sessionID now,
        (⟨c, response⟩ : StoreExchange) = ⟨.redeemInviteAndAccept row.inviteJTI key.pipeID sessionID
            key.recipientPublic row.accessEpoch now, .ok true⟩ ∧
        s.inviteRedemptions.lookup ⟨row.inviteJTI, key.pipeID⟩ = none := by
  rcases effect.cases with
    rfl | ⟨_, _, _, _, _, -, revoked⟩ | ⟨_, _, _, _, _, -, rfl⟩ |
      ⟨jti, pipeID, sessionID, clientPublic, epoch, now, won, exchanged, accepted⟩
  · exact Or.inl present
  · obtain ⟨-, -, rfl⟩ := Store.revoke_eq_ok revoked
    exact Or.inl present
  · exact Or.inl present
  · obtain ⟨rfl, ⟨_, -, -, rfl⟩ | ⟨absent, rfl⟩⟩ :=
      Store.redeemInviteAndAccept_eq_ok accepted
    · exact Or.inl present
    · by_cases same : key = ⟨pipeID, clientPublic⟩
      · subst same
        obtain ⟨acceptedAt, self⟩ := s.acceptFirst_relationship_self jti
          pipeID sessionID clientPublic epoch now.utc.formatRFC3339Nano
        grind
      · rw [Store.acceptFirst_relationship_other _ _ _ _ _ _ _ same] at present
        exact Or.inl present

/-- All stored epochs fit their column. -/
def Store.EpochsFit (s : Store) : Prop :=
  ∀ scope subjectType subjectJTI, s.revocationEpoch scope subjectType subjectJTI < int64Size

theorem Store.EpochsFit.revoke (fits : s.EpochsFit)
    {scope subjectType subjectJTI : GoString} {epoch : ℕ} {now : Time}
    (revoked : s.revoke scope subjectType subjectJTI epoch now = .ok after) : after.EpochsFit := by
  intro otherScope otherType otherJTI
  by_cases same : (⟨otherScope, otherType, otherJTI⟩ : RevocationKey) =
      ⟨scope, subjectType, subjectJTI⟩
  · obtain ⟨rfl, rfl, rfl⟩ := RevocationKey.mk.inj same
    rw [Store.revoke_revocationEpoch_self revoked]
    exact Store.revoke_fits revoked
  · rw [Store.revocationEpoch_congr (Store.revoke_lookup_other revoked same)]
    exact fits _ _ _

theorem StoreExec.epochsFit (effect : StoreExec c s response after)
    (fits : s.EpochsFit) : after.EpochsFit := by
  rcases effect.cases with
    rfl | ⟨_, _, _, _, _, -, revoked⟩ | ⟨_, _, _, _, _, -, rfl⟩ |
      ⟨_, _, _, _, _, _, _, -, accepted⟩
  · exact fits
  · exact fits.revoke revoked
  · exact fits
  · obtain ⟨-, ⟨_, -, -, rfl⟩ | ⟨-, rfl⟩⟩ :=
      Store.redeemInviteAndAccept_eq_ok accepted
    · exact fits
    · exact fits

end Tubo
