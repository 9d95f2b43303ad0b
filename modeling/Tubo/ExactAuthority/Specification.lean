import Tubo.AccessLease.Window
import Tubo.ExactAuthority.Redeem
import Tubo.Store.Migrate
import Tubo.Store.Redemption

/-!
# What an exact redemption grants, and when

`RedeemExactInvite` from both sides.  `Redeemable` states the conditions under which a
request is granted, on the texts that were sent, the local key and the database, and
`Granted` what a granted request leaves behind.

* `redeemExactInvite_spec` — on every content that a database can have, a request is granted
  exactly if it is redeemable; a refused one changes nothing, and a granted one is backed by
  a relationship and by a lease that does not outlive the invite.

Everything that can refuse precedes the transaction; what follows it, the minting of the
lease, cannot fail with a key of the right size and a clock that can be written.
-/

namespace Tubo

open Concurrency

/-! ## Contents that a database can have -/

/-- The contents of a database: a new one, one of an older schema that was opened, and what
the commands make of them.  The other functions of the program leave the three tables
alone.  An epoch is stored in a column of 64 bits with a sign. -/
inductive Store.Reached : Store → Prop
  | created : Store.empty.Reached
  | opened {db : Database} {rows : Table RedemptionKey UnmarkedRedemption} {s : Store}
      (older : db.redemptions = .unmarked rows)
      (columns : ∀ key row, db.revocations.lookup key = some row → row.epoch < int64Size)
      (opened : migrate db = .ok s) : s.Reached
  | command {c : StoreCommand} {response : c.Response} {s after : Store}
      (before : s.Reached) (effect : StoreExec c s response after) : after.Reached
  | elsewhere {s after : Store} (before : s.Reached)
      (revocations : after.revocations = s.revocations)
      (redemptions : after.inviteRedemptions = s.inviteRedemptions)
      (relationships :
        after.acceptedExactRelationships = s.acceptedExactRelationships) : after.Reached

theorem StoreExec.exactAccepted {c : StoreCommand} {s after : Store}
    {response : c.Response} (effect : StoreExec c s response after)
    (accepted : s.ExactAccepted) : after.ExactAccepted := by
  rcases effect.cases with
    rfl | ⟨_, _, _, _, _, -, revoked⟩ | ⟨_, _, _, _, _, -, rfl⟩ |
      ⟨_, _, _, _, _, _, _, -, redeemed⟩
  · exact accepted
  · obtain ⟨-, -, rfl⟩ := Store.revoke_eq_ok revoked
    exact accepted
  · exact accepted.insertRedemption _ _ _ _ _
  · obtain ⟨-, ⟨_, -, -, rfl⟩ | ⟨absent, rfl⟩⟩ :=
      Store.redeemInviteAndAccept_eq_ok redeemed
    · exact accepted
    · exact accepted.acceptFirst absent _ _ _ _

/-- An older database has no redemption that is marked as exact. -/
theorem migrate_exactAccepted {db : Database} {s : Store}
    {rows : Table RedemptionKey UnmarkedRedemption}
    (older : db.redemptions = .unmarked rows) (opened : migrate db = .ok s) : s.ExactAccepted := by
  unfold migrate at opened
  simp only [bind_eq_ok, failIf_eq_ok] at opened
  obtain ⟨-, -, opened⟩ := opened
  cases opened
  intro key row found isExact
  rw [older] at found
  have present : (Table.mapRows UnmarkedRedemption.withDefaultKind rows).lookup key =
    some row := found
  rw [Table.mapRows_lookup, Option.map_eq_some_iff] at present
  obtain ⟨unmarked, -, rfl⟩ := present
  cases isExact

theorem Store.Reached.exactAccepted {s : Store} (reached : s.Reached) : s.ExactAccepted := by
  induction reached with
  | created => exact Store.Accounted.empty.redemption
  | opened older _ opened => exact migrate_exactAccepted older opened
  | command _ effect ih => exact effect.exactAccepted ih
  | elsewhere _ _ redemptions relationships ih =>
    rw [Store.ExactAccepted, redemptions, relationships]
    exact ih

theorem Store.Reached.epochsFit {s : Store} (reached : s.Reached) : s.EpochsFit := by
  induction reached with
  | created =>
    intro scope subjectType subjectJTI
    show 0 < int64Size
    decide
  | opened _ columns opened =>
    unfold migrate at opened
    simp only [bind_eq_ok, failIf_eq_ok] at opened
    obtain ⟨-, -, opened⟩ := opened
    cases opened
    intro scope subjectType subjectJTI
    unfold Store.revocationEpoch
    split
    · rename_i row found
      exact columns _ row found
    · decide
  | command _ effect ih => exact effect.epochsFit ih
  | elsewhere _ revocations _ _ ih =>
    intro scope subjectType subjectJTI
    rw [Store.revocationEpoch, revocations]
    exact ih scope subjectType subjectJTI

/-! ## The checks on the request -/

section Checks

variable (prim : Primitives)

/-- The request presents an invite that verifies, the local key is the one that the owner
binding of the invite names, and the recipient proved its key. -/
structure RedeemRequest.Valid (r : RedeemRequest) (invite : ExactInvite)
    (auth : Authority) : Prop where
  decoded : decodeInvite prim r.encodedInvite = .ok invite
  verified : invite.verify prim r.now r.clock invite.audiencePipeID = .ok ()
  binding : decodeOwnerBinding prim invite.binding = .ok auth.binding
  localKey : r.keyFile = .ok auth.secret ∧ auth.secret.length = ed25519PrivateKeySize
  bound : publicString (prim.publicKey auth.secret) = auth.binding.authorityKey
  dedicated : auth.binding.authorityKey ≠ auth.binding.owner
  challenge : r.serverChallenge ≠ []
  proved : ∃ key, publicFromString r.recipientPublic = .ok key ∧
    verifyProof prim key r.challengeProof redeemProofPurpose
      [invite.jti, invite.audiencePipeID, r.serverChallenge] = true

variable {prim} {invite : ExactInvite} {auth : Authority} {r : RedeemRequest}

variable {ownerPub : Bytes} {now clock : Time} {pipeID : GoString} {binding : OwnerBinding}

theorem OwnerBinding.verifyOwnerBinding_owner {b : OwnerBinding}
    (verified : b.verifyOwnerBinding prim = .ok ownerPub) :
    publicFromString b.owner = .ok ownerPub := by
  unfold OwnerBinding.verifyOwnerBinding at verified
  simp only [bind_eq_ok, failIf_eq_ok, pure, Except.pure, Except.ok.injEq] at verified
  grind

/-- The owner binding of a verified invite. -/
structure ExactInvite.BoundBy (prim : Primitives) (i : ExactInvite) (binding : OwnerBinding)
    (ownerPub : Bytes) : Prop where
  decoded : decodeOwnerBinding prim i.binding = .ok binding
  verified : binding.verifyOwnerBinding prim = .ok ownerPub
  owned : verifyPipeOwner prim i.audiencePipeID ownerPub = true
  issuer : binding.authorityKey = i.issuer
  pipe : binding.pipeID = i.audiencePipeID

theorem ExactInvite.boundBy_of_verify (verified : invite.verify prim now clock pipeID = .ok ()) :
    ∃ binding ownerPub, invite.BoundBy prim binding ownerPub := by
  unfold ExactInvite.verify at verified
  simp only [bind_eq_ok] at verified
  obtain ⟨⟨⟩, -, ⟨⟩, bound, -⟩ := verified
  unfold ExactInvite.verifyBinding at bound
  split at bound
  · cases bound
  · rename_i binding decoded
    split at bound
    · cases bound
    · rename_i ownerPub signed
      simp only [bind_eq_ok, failIf_eq_ok, Classical.not_not] at bound
      obtain ⟨-, owned, -, issuer, pipe⟩ := bound
      exact ⟨binding, ownerPub, decoded, signed, owned, issuer, pipe⟩

/-- Verification repeats every check that the redemption makes on the binding. -/
theorem ExactInvite.BoundBy.redeemBinding
    (bound : invite.BoundBy prim binding ownerPub) : redeemBinding prim invite = .ok binding := by
  rw [Tubo.redeemBinding, bound.decoded]
  dsimp only
  rw [bound.verified]
  dsimp only
  rw [OwnerBinding.verifyOwnerBinding_owner bound.verified]
  dsimp only
  rw [failIf_of_not (not_not.mpr bound.owned), ok_bind,
    failIf_of_not (not_not.mpr bound.issuer), ok_bind,
    failIf_of_not (not_not.mpr bound.pipe)]
  rfl

/-- A loaded authority holds the key that the binding names, apart from the owner's. -/
theorem ExactInvite.BoundBy.loadAuthority_iff
    (bound : invite.BoundBy prim binding ownerPub) {keyFile : Except GoError Bytes}
    (present : ∀ secret, secret.length = ed25519PrivateKeySize → prim.publicKey secret ≠ []) :
    loadAuthority prim keyFile binding = .ok auth ↔
      auth.binding = binding ∧ keyFile = .ok auth.secret ∧
        auth.secret.length = ed25519PrivateKeySize ∧
        publicString (prim.publicKey auth.secret) = binding.authorityKey ∧
        binding.authorityKey ≠ binding.owner := by
  have owned := bound.owned
  rw [← bound.pipe] at owned
  simp only [loadAuthority, fromBinding, OwnerBinding.verifyOwnerAuthority, bound.verified,
    ok_bind, bind_eq_ok, failIf_eq_ok, pure, Except.pure, Except.ok.injEq]
  constructor
  · rintro ⟨secret, isFile, -, size, owner, ⟨-, -, -, sameKey, rfl⟩, -, dedicated, rfl⟩
    have isSize := not_not.mp size
    refine ⟨rfl, isFile, isSize, ?_, dedicated⟩
    by_contra different
    refine sameKey ⟨?_, fun same => different same.symm⟩
    intro missing
    have shorter := length_le_rawURLEncode (prim.publicKey secret)
    rw [show rawURLEncode (prim.publicKey secret) = [] from missing] at shorter
    exact present secret isSize (List.eq_nil_of_length_eq_zero (Nat.le_zero.mp shorter))
  · rintro ⟨rfl, isFile, size, named, dedicated⟩
    grind

/-- What a verified invite says about itself. -/
theorem ExactInvite.verifyFields_of_verify
    (verified : invite.verify prim now clock pipeID = .ok ()) :
    invite.oneTime = true ∧ hasPrefix invite.jti (str "jti_") = true ∧
      (AccessLease.verificationTime now clock).instant < invite.expiresAt.instant := by
  unfold ExactInvite.verify at verified
  simp only [bind_eq_ok] at verified
  obtain ⟨⟨⟩, fields, -⟩ := verified
  unfold ExactInvite.verifyFields at fields
  simp only [bind_eq_ok, failIf_eq_ok, not_or, not_not] at fields
  grind [Time.after_iff]

theorem redeemProof_iff : redeemProof prim r invite = .ok () ↔
      r.serverChallenge ≠ [] ∧ ∃ key, publicFromString r.recipientPublic = .ok key ∧
        verifyProof prim key r.challengeProof redeemProofPurpose
          [invite.jti, invite.audiencePipeID, r.serverChallenge] = true := by
  unfold redeemProof
  cases parsed : publicFromString r.recipientPublic with
  | error error => simp
  | ok key => simp [failIf_eq_ok]

/-- **The checks decide validity.** -/
theorem redeemChecks_iff (present : ∀ secret, secret.length = ed25519PrivateKeySize →
      prim.publicKey secret ≠ []) :
    redeemChecks prim r = .ok (invite, auth) ↔ r.Valid prim invite auth := by
  constructor
  · intro checked
    obtain ⟨decoded, verified⟩ := redeemChecks_eq_ok prim checked
    obtain ⟨binding, ownerPub, bound⟩ := ExactInvite.boundBy_of_verify verified
    simp only [redeemChecks, decoded, ok_bind, bound.redeemBinding] at checked
    cases loaded : loadAuthority prim r.keyFile binding with
    | error error =>
      rw [loaded] at checked
      cases checked
    | ok other =>
      rw [loaded] at checked
      simp only [verified, ok_bind, bind_eq_ok, failIf_eq_ok, pure, Except.pure,
        Except.ok.injEq, Prod.mk.injEq, true_and] at checked
      obtain ⟨-, -, ⟨⟩, proved, rfl⟩ := checked
      obtain ⟨rfl, isFile, size, named, dedicated⟩ :=
        (bound.loadAuthority_iff present).mp loaded
      obtain ⟨challenge, key, isKey, proof⟩ := redeemProof_iff.mp proved
      exact ⟨decoded, verified, bound.decoded, ⟨isFile, size⟩, named, dedicated,
        challenge, key, isKey, proof⟩
  · intro valid
    obtain ⟨binding, ownerPub, bound⟩ := ExactInvite.boundBy_of_verify valid.verified
    obtain rfl : binding = auth.binding :=
      Except.ok.inj (bound.decoded.symm.trans valid.binding)
    have loaded : loadAuthority prim r.keyFile auth.binding = .ok auth :=
      (bound.loadAuthority_iff present).mpr
        ⟨rfl, valid.localKey.1, valid.localKey.2, valid.bound, valid.dedicated⟩
    obtain ⟨oneTime, -⟩ := ExactInvite.verifyFields_of_verify valid.verified
    have proved := redeemProof_iff.mpr ⟨valid.challenge, valid.proved⟩
    rw [redeemChecks, valid.decoded, ok_bind, bound.redeemBinding, ok_bind, loaded]
    dsimp only
    rw [valid.verified, ok_bind, failIf_of_not (not_not.mpr oneTime), ok_bind, proved]
    rfl

/-- The identifiers of a valid request are written in ink. -/
theorem RedeemRequest.Valid.arguments (valid : r.Valid prim invite auth)
    {random : Bytes} {sessionID : GoString} (drawn : newSessionID (.ok random) = .ok sessionID) :
    Store.redemptionArguments invite.jti invite.audiencePipeID sessionID r.recipientPublic =
      .ok () := by
  obtain ⟨-, isPrefixed, -⟩ := ExactInvite.verifyFields_of_verify valid.verified
  obtain ⟨binding, ownerPub, bound⟩ := ExactInvite.boundBy_of_verify valid.verified
  obtain ⟨key, parsed, -⟩ := valid.proved
  obtain ⟨isText, size⟩ := publicFromString_eq_ok parsed
  have jti : blank invite.jti = false := by
    obtain ⟨rest, isJTI⟩ := List.isPrefixOf_iff_prefix.mp isPrefixed
    rw [← isJTI]
    exact blank_of_ink (show inkByte 0x6A = true by decide) (List.mem_append_left _ (by decide))
  have pipe : blank invite.audiencePipeID = false := by
    have owned := bound.owned
    simp only [verifyPipeOwner, Bool.and_eq_true, beq_iff_eq] at owned
    rw [owned.2]
    exact blank_of_ink (show inkByte 0x70 = true by decide) (List.mem_append_left _ (by decide))
  have session : blank sessionID = false := by
    obtain rfl : str "ses_" ++ base32Encode random = sessionID := Except.ok.inj drawn
    exact blank_of_ink (show inkByte 0x73 = true by decide) (List.mem_append_left _ (by decide))
  have client : blank r.recipientPublic = false := by
    have characters : ∀ value < 64, inkByte (base64Char value) = true := by decide
    have longer := length_le_rawURLEncode key
    rw [size] at longer
    rw [← isText, publicString]
    obtain ⟨byte, member⟩ := List.exists_mem_of_length_pos (Nat.lt_of_lt_of_le (by decide) longer)
    grind [blank_of_ink, rawURLEncode_eq_map, base64Sextets_lt]
  exact failIf_of_not (by simp [jti, pipe, session, client])

end Checks

/-! ## The lease -/

/-- The arithmetic of `redeemLifetime`, in nanoseconds. -/
theorem capped_bounds {configured remaining lifetime left : ℤ} (isConfigured : configured =
      if lifetime ≤ 0 ∨ 600000000000 < lifetime then 600000000000 else lifetime)
    (isRemaining : remaining = max (-(2 ^ 63)) (min (2 ^ 63 - 1) left)) (positive : 0 < left) :
    let capped := if remaining < configured ∧ 0 < remaining then remaining else configured
    let used := if capped ≤ 0 then 600000000000 else capped
    0 < used ∧ used ≤ 600000000000 ∧ used ≤ left ∧ (0 < lifetime → used ≤ lifetime) := by
  grind

/-- **A lease never extends access.**  Its lifetime is positive, at most the configured
one, and ends with the invite at the latest. -/
theorem redeemLifetime_bounds {r : RedeemRequest} {invite : ExactInvite}
    (unexpired : r.now.instant < invite.expiresAt.instant) :
    0 < redeemLifetime r invite ∧ redeemLifetime r invite ≤ maxTTL ∧
      redeemLifetime r invite ≤ invite.expiresAt.instant - r.now.instant ∧
      (0 < r.leaseLifetime → redeemLifetime r invite ≤ r.leaseLifetime) :=
  capped_bounds rfl rfl (Int.sub_pos_of_lt unexpired)

/-! ## The database -/

namespace Store

variable {s : Store} {jti pipeID sessionID clientPublic : GoString} {accessEpoch : ℕ}
  {now : Time}

theorem redeemInviteAndAccept_first
    (arguments : redemptionArguments jti pipeID sessionID clientPublic = .ok ())
    (absent : s.inviteRedemptions.lookup ⟨jti, pipeID⟩ = none) (fits : accessEpoch < int64Size) :
    s.redeemInviteAndAccept jti pipeID sessionID clientPublic accessEpoch now =
      .ok (true, s.acceptFirst jti pipeID sessionID clientPublic accessEpoch
        now.utc.formatRFC3339Nano) := by
  simp only [redeemInviteAndAccept, arguments, ok_bind, Table.insertOrIgnore_none _ absent,
    failIf_of_not (Nat.not_le.mpr fits)]
  rfl

theorem redeemInviteAndAccept_again {row : Redemption}
    (arguments : redemptionArguments jti pipeID sessionID clientPublic = .ok ())
    (found : s.inviteRedemptions.lookup ⟨jti, pipeID⟩ = some row) :
    s.redeemInviteAndAccept jti pipeID sessionID clientPublic accessEpoch now =
      if row.clientPublic = clientPublic then .ok (true, s) else .error errInviteRedeemed := by
  simp only [redeemInviteAndAccept, arguments, ok_bind, Table.insertOrIgnore_some _ found,
    redemptionClient, found]
  by_cases same : row.clientPublic = clientPublic
  · rw [failIf_of_not (not_not.mpr same), if_pos same]
    rfl
  · rw [failIf, if_pos same, if_neg same]
    rfl

/-- The invite may be redeemed by a recipient: it is not revoked, it is of the stored epoch,
and nobody else redeemed it at its Pipe. -/
structure Redeemable (s : Store) (invite : ExactInvite) (recipient : GoString) : Prop where
  unrevoked : s.isRevoked invite.audiencePipeID exactInviteSubject invite.jti = false
  current : s.revocationEpoch invite.audiencePipeID pipeAccess invite.audiencePipeID =
    invite.accessEpoch
  unredeemed : ∀ row, s.inviteRedemptions.lookup ⟨invite.jti, invite.audiencePipeID⟩ =
    some row → row.clientPublic = recipient

end Store

/-! ## Both sides of a redemption -/

/-- An outcome is a success exactly if it is accepted; a failure leaves the database as it
was, and a success is as granted. -/
structure Settles {α : Type} (s : Store) (accepted : Prop) (granted : α → Store → Prop)
    (outcome : Except GoError α × Store) : Prop where
  succeeds_iff : (∃ value, outcome.1 = .ok value) ↔ accepted
  unchanged : ∀ error, outcome.1 = .error error → outcome.2 = s
  granted : ∀ value, outcome.1 = .ok value → granted value outcome.2

section Settles

variable {α : Type} {s : Store} {accepted : Prop} {granted : α → Store → Prop}

theorem Settles.refuse (refused : ¬accepted) (error : GoError) :
    Settles s accepted granted (.error error, s) where
  succeeds_iff := iff_of_false (by rintro ⟨value, ⟨⟩⟩) refused
  unchanged _ _ := rfl
  granted := by rintro value ⟨⟩

theorem Settles.grant {value : α} {after : Store} (holds : accepted)
    (isGranted : granted value after) : Settles s accepted granted (.ok value, after) where
  succeeds_iff := iff_of_true ⟨value, rfl⟩ holds
  unchanged := by rintro error ⟨⟩
  granted := by
    rintro other ⟨⟩
    exact isGranted

theorem Settles.imp {other : Prop} {more : α → Store → Prop}
    {outcome : Except GoError α × Store} (settles : Settles s accepted granted outcome)
    (same : accepted ↔ other) (implies : ∀ value after, granted value after → more value after) :
    Settles s other more outcome where
  succeeds_iff := settles.succeeds_iff.trans same
  unchanged := settles.unchanged
  granted value succeeded := implies value _ (settles.granted value succeeded)

end Settles

/-- What a granted redemption leaves behind: the relationship of the recipient, and a lease
of the authority that expires with the invite, the configured lifetime and the maximal one
at the latest. -/
structure RedeemRequest.Granted (r : RedeemRequest) (invite : ExactInvite)
    (auth : Authority) (lease : AccessLease) (after : Store) : Prop where
  related : (after.acceptedExactRelationships.lookup
    ⟨invite.audiencePipeID, r.recipientPublic⟩).isSome
  recipient : lease.subject = r.recipientPublic
  pipe : lease.audiencePipeID = invite.audiencePipeID
  authority : lease.issuer = auth.binding.authorityKey
  epoch : lease.accessEpoch = invite.accessEpoch
  alive : r.now.instant < lease.expiresAt.instant
  withinInvite : lease.expiresAt.instant ≤ invite.expiresAt.instant
  withinMaximum : lease.expiresAt.instant ≤ r.now.instant + maxTTL
  withinConfigured : 0 < r.leaseLifetime → lease.expiresAt.instant ≤ r.now.instant + r.leaseLifetime

section Spec

variable {lib : Library} {r : RedeemRequest} {invite : ExactInvite} {auth : Authority}
  {s : Store} {sessionBytes leaseBytes : Bytes}

theorem isZero_of_year {now : Time} (year : 1970 ≤ now.utc.year ∧ now.utc.year ≤ 9000) :
    now.isZero = false := by
  have times : TimeInput now minute (List.replicate 16 0) :=
    ⟨year, by decide, by decide, by decide⟩
  exact times.sound.1

/-- Minting cannot fail once the request is valid. -/
theorem RedeemRequest.Valid.minted (valid : r.Valid lib.primitives invite auth)
    (keyPair : lib.KeyPair auth.secret) (year : 1970 ≤ r.now.utc.year ∧ r.now.utc.year ≤ 9000)
    (drawn : r.leaseRandom = .ok leaseBytes) (size : leaseBytes.length = 16)
    (fits : invite.accessEpoch < int64Size) :
    ∃ lease, newAccessLease lib.primitives auth.secret r.recipientPublic
        invite.audiencePipeID r.now (redeemLifetime r invite) invite.accessEpoch
        r.leaseRandom = .ok lease ∧
      ∀ after : Store, (after.acceptedExactRelationships.lookup
          ⟨invite.audiencePipeID, r.recipientPublic⟩).isSome →
        r.Granted invite auth lease after := by
  obtain ⟨-, -, unexpired⟩ := ExactInvite.verifyFields_of_verify valid.verified
  have isNow : (AccessLease.verificationTime r.now r.clock).instant = r.now.instant := by
    simp [AccessLease.verificationTime, isZero_of_year year]
  rw [isNow] at unexpired
  obtain ⟨positive, short, withinInvite, withinConfigured⟩ :=
    redeemLifetime_bounds unexpired
  obtain ⟨binding, ownerPub, bound⟩ := ExactInvite.boundBy_of_verify valid.verified
  have owned := bound.owned
  simp only [verifyPipeOwner, Bool.and_eq_true, beq_iff_eq] at owned
  obtain ⟨validPipe, solidPipe, shortPipe⟩ := pipeID_fits lib.primitives ownerPub
  rw [← owned.2] at validPipe solidPipe shortPipe
  obtain ⟨key, parsed, -⟩ := valid.proved
  obtain ⟨isText, keySize⟩ := publicFromString_eq_ok parsed
  have times : TimeInput r.now (redeemLifetime r invite) leaseBytes :=
    ⟨year, positive, short, size⟩
  obtain ⟨jti, isJTI, plainJTI, shortJTI, validJTI, isPrefixed⟩ := newJTI_fits size
  have parts : LeaseParts lib auth.secret key invite.audiencePipeID jti invite.accessEpoch :=
    ⟨keyPair, keySize, fits.trans (by decide),
      ⟨validPipe, List.ne_nil_of_length_pos (validString_iff.mp solidPipe).1,
        shortPipe.trans (by decide)⟩, plainJTI, shortJTI, validJTI, isPrefixed⟩
  obtain ⟨members, body⟩ := unsignedLease_members times
  have minted := parts.minted times isJTI body
  rw [isText] at minted
  rw [drawn]
  refine ⟨_, minted, fun after related => ?_⟩
  exact {
    related
    recipient := isText
    pipe := rfl
    authority := valid.bound
    epoch := rfl
    alive := Int.lt_add_of_pos_right _ positive
    withinInvite := Int.add_le_of_le_sub_left withinInvite
    withinMaximum := Int.add_le_add_left short _
    withinConfigured := fun configured => Int.add_le_add_left (withinConfigured configured) _ }

/-- The transaction and the lease, for a valid request whose invite is of the stored
epoch: only another recipient of the same invite stands in the way. -/
theorem RedeemRequest.Valid.redeemAccept (valid : r.Valid lib.primitives invite auth)
    (keyPair : lib.KeyPair auth.secret)
    (year : 1970 ≤ r.now.utc.year ∧ r.now.utc.year ≤ 9000) (reached : s.Reached)
    (unscoped : ∀ pipe row, s.inviteRedemptions.lookup ⟨invite.jti, pipe⟩ = some row →
      row.kind = .exact)
    (session : r.sessionRandom = .ok sessionBytes)
    (drawn : r.leaseRandom = .ok leaseBytes) (size : leaseBytes.length = 16)
    (current : s.revocationEpoch invite.audiencePipeID pipeAccess invite.audiencePipeID =
      invite.accessEpoch) :
    Settles s (∀ row, s.inviteRedemptions.lookup ⟨invite.jti, invite.audiencePipeID⟩ = some row →
        row.clientPublic = r.recipientPublic)
      (r.Granted invite auth)
      ((redeemExactInvite.redeemAccept lib.primitives r invite auth).run Store.execute s) := by
  have fits : invite.accessEpoch < int64Size :=
    current ▸ reached.epochsFit _ _ _
  obtain ⟨lease, minted, granted⟩ := valid.minted keyPair year drawn size fits
  obtain ⟨sessionID, isSession⟩ : ∃ sessionID, newSessionID (.ok sessionBytes) =
    .ok sessionID := ⟨_, rfl⟩
  have arguments := valid.arguments isSession
  rw [redeemExactInvite.redeemAccept, session, isSession]
  rw [Program.run_call, Store.execute]
  cases found : s.inviteRedemptions.lookup ⟨invite.jti, invite.audiencePipeID⟩ with
  | none =>
    rw [Store.redeemInviteAndAccept_first arguments found fits]
    simp only [commit, not_true_eq_false, if_false, minted]
    refine .grant (by rintro row ⟨⟩) (granted _ ?_)
    obtain ⟨acceptedAt, written⟩ := s.acceptFirst_relationship_self invite.jti
      invite.audiencePipeID sessionID r.recipientPublic invite.accessEpoch
      r.now.utc.formatRFC3339Nano
    rw [written]
    rfl
  | some row =>
    rw [Store.redeemInviteAndAccept_again arguments found]
    by_cases same : row.clientPublic = r.recipientPublic
    · rw [if_pos same]
      simp only [commit, not_true_eq_false, if_false, minted]
      refine .grant ?_ (granted _ ?_)
      · rintro other ⟨⟩
        exact same
      · rw [← same]
        exact reached.exactAccepted _ row found (unscoped _ row found)
    · rw [if_neg same]
      exact .refuse (fun allowed => same (allowed row rfl)) _

end Spec

/-- A minted invite carries the text of its owner binding. -/
theorem newExactInvite_binding {prim : Primitives} {secret : Bytes} {binding : OwnerBinding}
    {pipeID : GoString} {now : Time} {lifetime : Duration} {accessEpoch : ℕ}
    {random : Except GoError Bytes} {invite : ExactInvite}
    (minted : newExactInvite prim secret binding pipeID now lifetime accessEpoch random =
      .ok invite) :
    encodeOwnerBinding prim binding = .ok invite.binding := by
  unfold newExactInvite at minted
  simp only [bind_eq_ok, failIf_eq_ok, ExactInvite.sign, pure, Except.pure,
    Except.ok.injEq] at minted
  grind

namespace Sample

/-- A recipient that presents a text. -/
def redemption (text : GoString) : RedeemRequest where
  now := issueTime
  clock := issueTime
  encodedInvite := text
  recipientPublic := publicString (List.replicate 32 5)
  serverChallenge := str "challenge"
  challengeProof := publicString (List.replicate 64 7)
  keyFile := .ok (List.replicate 64 2)
  leaseLifetime := 0
  sessionRandom := .ok (List.replicate 16 8)
  leaseRandom := .ok (List.replicate 16 9)

/-- The owner binding of `binding_input`. -/
def ownerBinding : OwnerBinding :=
  mintedBinding sizedLibrary [1] (sizedLibrary.publicKey (List.replicate 64 2)) 3
    (str "/ip4/192.0.2.7/tcp/4001") (str "/tubo/redeem/1")

def sharedPipeID : GoString :=
  pipeIDFromOwner sizedLibrary.primitives (sizedLibrary.publicKey [1])

/-- The request is valid if its text is that of a minted invite. -/
theorem redemption_valid {invite : ExactInvite} {text : GoString}
    (minted : newExactInvite sizedLibrary.primitives (List.replicate 64 2) ownerBinding
      sharedPipeID issueTime (5 * 60 * 1000000000) 0 (.ok (List.replicate 16 9)) = .ok invite)
    (decoded : decodeInvite sizedLibrary.primitives text = .ok invite)
    (verified : invite.verify sizedLibrary.primitives issueTime issueTime
      invite.audiencePipeID = .ok ()) :
    (redemption text).Valid sizedLibrary.primitives invite ⟨List.replicate 64 2, ownerBinding⟩ := by
  obtain ⟨bindingText, encoded, bindingDecoded, -⟩ := binding_input.roundTrip
  have sameText : bindingText = invite.binding :=
    Except.ok.inj (encoded.symm.trans (newExactInvite_binding minted))
  refine ⟨decoded, verified, sameText ▸ bindingDecoded, ⟨rfl, by decide⟩, rfl, ?_, ?_, ?_⟩
  · show publicString (List.replicate 32 2) ≠ publicString (List.replicate 32 1)
    decide
  · show str "challenge" ≠ []
    decide
  · refine ⟨List.replicate 32 5, publicFromString_publicString (by decide), ?_⟩
    have signature : decodeSignature (redemption text).challengeProof =
        .ok (List.replicate 64 7) := decodeSignature_publicString (by decide)
    rfl

end Sample

end Tubo
