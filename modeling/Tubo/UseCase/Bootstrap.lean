import Tubo.Cli.Consumer

/-!
# What a failing connect has used up

An exact invite can be redeemed once.  `ConnectExact` therefore makes its local
checks before it redeems the invite: the input, the name, and the Pipes that are
already stored.  This module determines which local failures are left for after
the redemption.

The redemption, the verification of the lease and the binding cannot fail
locally: a verified invite bounds everything the binding contains.  What remains
is the final write of the Pipe, which validates the specification for the first
time.  One of the checks of `PipeSpec.Validate` is not implied by the earlier
ones: a Pipe must not target itself, and the local name may be the identifier of
the remote Pipe.
-/

namespace Tubo

open Concurrency

variable (prim : Primitives)

/-- The one-time redemption is called. -/
def HomeCommand.isRedeem : HomeCommand → Bool
  | .redeem .. => true
  | _ => false

/-- Some exchange calls the redemption. -/
def Redeemed (trace : List HomeExchange) : Prop :=
  ∃ exchange ∈ trace, exchange.command.isRedeem = true

theorem Redeemed.append_iff {first second : List HomeExchange} :
    Redeemed (first ++ second) ↔ Redeemed first ∨ Redeemed second := by
  simp only [Redeemed, List.mem_append, or_and_right, exists_or]

@[simp]
theorem redeemed_cons {exchange : HomeExchange} {rest : List HomeExchange} :
    Redeemed (exchange :: rest) ↔ exchange.command.isRedeem = true ∨ Redeemed rest := by
  simp [Redeemed]

@[simp]
theorem not_redeemed_nil : ¬Redeemed [] := by
  simp [Redeemed]

/-! ## Names -/

/-- The public text of a key is short. -/
theorem PrivateKey.publicString_bound (key : PrivateKey)
    (keySizes : ∀ secret : Bytes, secret.length = ed25519PrivateKeySize →
      (prim.publicKey secret).length = ed25519PublicKeySize) :
    key.publicString prim ≠ [] ∧ (key.publicString prim).length ≤ 64 := by
  have size := keySizes key.secret key.size
  have bound := rawURLEncode_length_le (prim.publicKey key.secret)
  rw [size] at bound
  exact ⟨rawURLEncode_ne_nil (List.ne_nil_of_length_pos (by rw [size]; decide)),
    bound⟩

/-- A Pipe identifier is a resource name. -/
theorem pipeIDFromOwner_matches (owner : Bytes) :
    matchesResourceName (pipeIDFromOwner prim owner) = true := by
  grind [pipeIDFromOwner_length, pipeIDFromOwner_bytes, toLowerASCII_base32Encode, isNameCharacter,
    isNameStart, matchesResourceName]

/-- A reference that was made is a valid one with the trimmed name. -/
theorem newRef_eq_ok {kind : ResourceKind} {name : GoString} {ref : Ref}
    (made : newRef kind name = .ok ref) : ref = ⟨kind, trimSpace name⟩ ∧ ref.validate = .ok () := by
  unfold newRef at made
  simp only [bind_eq_ok] at made
  obtain ⟨⟨⟩, valid, made⟩ := made
  cases made
  exact ⟨rfl, valid⟩

theorem Ref.validate_pipe (name : GoString) :
    (Ref.mk .pipe name).validate = .ok () ↔ matchesResourceName name = true := by
  simp [Ref.validate]

/-- The local name of a connection is the remote identifier only if it was given
as such. -/
theorem recipientRefFor_eq_ok {owner : Bytes} {name : GoString} {ref : Ref}
    (made : recipientRefFor (pipeIDFromOwner prim owner) name = .ok ref) :
    ref.validate = .ok () ∧ ref.kind = .pipe ∧ (name ≠ [] → ref = ⟨.pipe, trimSpace name⟩) ∧
      (ref.name = pipeIDFromOwner prim owner ↔ trimSpace name = pipeIDFromOwner prim owner) := by
  unfold recipientRefFor at made
  split at made
  · grind [newRef_eq_ok]
  · rename_i unnamed
    obtain rfl : name = [] := Classical.not_not.mp unnamed
    obtain ⟨rfl, valid⟩ := newRef_eq_ok made
    refine ⟨valid, rfl, fun named => absurd rfl named, iff_of_false ?_ ?_⟩
    · -- the generated name begins with `c`, the identifier with `p`
      intro same
      have initial : trimSpace ((str "connect-" ++ pipeIDFromOwner prim owner).take 63) <+: _ :=
        trimSpace_initial _ (by decide : solidByte 0x63 = true)
      grind [pipeIDFromOwner_bytes]
    · rw [trimSpace_nil, pipeIDFromOwner_bytes]
      simp

/-! ## The local part -/

section Run

variable {prim} {u : UseCases} {input : ConnectExactInput}
  {env : Surroundings} {home after : Home}

variable {invite : ExactInvite} {recipient : Recipient} {address : GoString}

theorem presentedInvite_run_ok {encoded : GoString}
    (ran : (presentedInvite prim u encoded).run (Home.execute env) home = (.ok invite, after)) :
    decodeInvite prim encoded = .ok invite ∧ invite.Verified prim ∧
      after = { home with readings := home.readings + 1 } := by
  unfold presentedInvite at ran
  split at ran
  · cases (Prod.mk.inj ran).1
  · rename_i decoded
    rw [Program.run_call] at ran
    split at ran
    · cases (Prod.mk.inj ran).1
    · rename_i verified
      obtain ⟨same, rfl⟩ := Prod.mk.inj ran
      obtain rfl := Except.ok.inj same
      exact ⟨decoded, ExactInvite.verify_eq_ok prim verified, rfl⟩

/-- What is known once the recipient of a presented invite is resolved. -/
structure PresentedRecipient (prim : Primitives) (u : UseCases)
    (input : ConnectExactInput) (env : Surroundings) (home after : Home)
    (recipient : Recipient) (invite : ExactInvite) (key : PrivateKey) :
    Prop where
  decoded : decodeInvite prim input.invite = .ok invite
  verified : invite.Verified prim
  provisioned : (home.provision (env.freshKey (recipientKeyFile u.secrets invite.audiencePipeID))
    (recipientKeyFile u.secrets invite.audiencePipeID)).1 = .ok key
  resolved : recipient = ⟨invite.audiencePipeID, key.publicString prim,
    recipientKeyFile u.secrets invite.audiencePipeID, some invite⟩
  stored : after.keys.lookup (recipientKeyFile u.secrets invite.audiencePipeID) = some (.ok key)
  store : after.store = home.store

theorem connectRecipient_run_ok (token : input.invite ≠ [])
    (ran : (connectRecipient prim u input).run (Home.execute env) home = (.ok recipient, after)) :
    ∃ invite key, PresentedRecipient prim u input env home after recipient invite key := by
  rw [connectRecipient, if_pos token, Program.run_andThen_eq_ok] at ran
  obtain ⟨invite, middle, presented, ran⟩ := ran
  obtain ⟨decoded, verified, rfl⟩ := presentedInvite_run_ok presented
  rw [Program.run_call] at ran
  split at ran
  · cases (Prod.mk.inj ran).1
  · rename_i key provisioned
    obtain ⟨same, rfl⟩ := Prod.mk.inj ran
    obtain rfl := Except.ok.inj same
    refine ⟨invite, key, decoded, verified, ?_, rfl,
      Home.provision_eq_ok provisioned, Home.provision_store _ _ _⟩
    rw [← provisioned]
    exact Home.provision_fst rfl

/-- A plan either stores a Pipe whose reference and identifier are new, or it
reuses one: the one with the requested reference, or without a requested name
the one with the same identity. -/
theorem connectPlan_run_ok {spec : PipeSpec} {plan : ConnectPlan}
    (ran : (connectPlan input recipient spec).run (Home.execute env) home = (.ok plan, after)) :
    after = home ∧ (plan = ⟨spec, recipient.keyFile, true⟩ ∧
          Refused (home.store.pipe spec.ref.string) ∧
          Refused (home.store.pipe spec.pipeID) ∨
        plan.upsert = false ∧ (input.name ≠ [] → ¬Refused (home.store.pipe spec.ref.string))) := by
  rw [connectPlan, Program.run_call] at ran
  dsimp only [Home.execute] at ran
  cases byRef : home.store.pipe spec.ref.string with
  | ok row =>
    rw [byRef] at ran
    obtain ⟨reused, rfl⟩ := Prod.mk.inj ran
    grind [reusePipe_eq_ok, Refused]
  | error errRef =>
    rw [byRef] at ran
    dsimp only [pipeRepoGet] at ran
    split at ran
    · rw [Program.run_call] at ran
      dsimp only [Home.execute] at ran
      cases byID : home.store.pipe spec.pipeID with
      | ok row =>
        rw [byID] at ran
        obtain ⟨reused, rfl⟩ := Prod.mk.inj ran
        simp only [bind_eq_ok, failIf_eq_ok, Classical.not_not] at reused
        obtain ⟨found, reuse, -, unnamed, same⟩ := reused
        obtain rfl := Except.ok.inj same
        exact ⟨rfl, .inr ⟨reusePipe_eq_ok reuse, fun named => absurd unnamed named⟩⟩
      | error errID =>
        rw [byID] at ran
        dsimp only [pipeRepoGet] at ran
        split at ran
        · obtain ⟨same, rfl⟩ := Prod.mk.inj ran
          obtain rfl := Except.ok.inj same
          exact ⟨rfl, .inl ⟨rfl, ⟨errRef, rfl⟩, ⟨errID, rfl⟩⟩⟩
        · cases (Prod.mk.inj ran).1
    · cases (Prod.mk.inj ran).1

/-- What is known when the local part has succeeded: the recipient, and a plan
for the specification of the resolved reference. -/
theorem connectLocal_run_ok (token : input.invite ≠ []) {resolved : Recipient × ConnectPlan}
    (ran : (connectLocal prim u input).run (Home.execute env) home = (.ok resolved, after)) :
    blank input.localListen = false ∧ blank u.secrets = false ∧ ∃ invite key ref now,
        PresentedRecipient prim u input env home after resolved.1 invite key ∧
        recipientRefFor invite.audiencePipeID input.name = .ok ref ∧
        (resolved.2 = ⟨connectSpec prim resolved.1 ref input.localListen now,
            resolved.1.keyFile, true⟩ ∧
            Refused (home.store.pipe ref.string) ∧
            Refused (home.store.pipe (connectSpec prim resolved.1 ref
              input.localListen now).pipeID) ∨
          resolved.2.upsert = false ∧
            (input.name ≠ [] → ¬Refused (home.store.pipe ref.string))) := by
  unfold connectLocal at ran
  split at ran
  · cases (Prod.mk.inj ran).1
  · rename_i checked
    simp only [connectInputChecks, bind_eq_ok, failIf_eq_ok, Bool.not_eq_true] at checked
    obtain ⟨-, listen, -, secrets, -⟩ := checked
    refine ⟨listen, secrets, ?_⟩
    rw [Program.run_andThen_eq_ok] at ran
    obtain ⟨recipient, middle, first, ran⟩ := ran
    obtain ⟨invite, key, presented⟩ := connectRecipient_run_ok token first
    split at ran
    · cases (Prod.mk.inj ran).1
    · rename_i ref made
      rw [Program.run_call, Program.run_andThen_eq_ok] at ran
      obtain ⟨plan, later, planned, ran⟩ := ran
      obtain ⟨rfl, plans⟩ := connectPlan_run_ok planned
      obtain ⟨same, rfl⟩ := Prod.mk.inj ran
      obtain rfl := Except.ok.inj same
      rw [presented.resolved] at made
      have sameStore : ((Home.execute env .now middle).2).store = home.store :=
        presented.store
      rw [sameStore] at plans
      exact ⟨invite, key, ref, _, { presented with }, made, plans⟩

/-- The local part does not redeem the invite. -/
theorem connectLocal_keeps_invite (prim : Primitives) (u : UseCases)
    (input : ConnectExactInput) (env : Surroundings) (home : Home) :
    ¬Redeemed ((connectLocal prim u input).trace (Home.execute env) home) := by
  rintro ⟨exchange, member, isRedeem⟩
  obtain ⟨before, later, split⟩ := List.append_of_mem member
  have asked := (connectLocal_conduct prim u input False []).trace (Home.execute env) home split
  cases command : exchange.command with
  | redeem invite recipientPublic =>
    rw [command] at asked
    exact asked
  | _ =>
    rw [command] at isRedeem
    cases isRedeem

/-! ## The redemption -/

/-- An address that is found in a verified invite fits into a binding. -/
theorem redemptionAddress_bound
    (verified : invite.Verified prim) (found : redemptionAddress prim invite = .ok address) :
    address ≠ [] ∧ address.length ≤ maxRedemptionAddrLen := by
  simp only [redemptionAddress, bind_eq_ok, failIf_eq_ok] at found
  obtain ⟨-, -, found⟩ := found
  split at found
  · cases found
  · rename_i binding decoded
    simp only [bind_eq_ok, failIf_eq_ok, Bool.not_eq_true] at found
    obtain ⟨-, -, -, solid, found⟩ := found
    obtain rfl := Except.ok.inj found
    grind [trimSpace_length_le, List.takeWhile_sublist, ExactInvite.Verified.peersBound, blank]

/-- The binding of a verified invite is valid. -/
theorem acceptedBinding_valid
    {recipientPublic : GoString} (now : Time) (verified : invite.Verified prim)
    (addressBound : address ≠ [] ∧ address.length ≤ maxRedemptionAddrLen)
    (publicBound : recipientPublic ≠ [] ∧ recipientPublic.length ≤ 64) :
    (acceptedBinding invite address recipientPublic now).validate = .ok () := by
  obtain ⟨owner, owned⟩ := verified.owned
  have short := pipeIDFromOwner_length prim owner
  have begins : hasPrefix (pipeIDFromOwner prim owner) (str "pip_") = true := by
    simp [hasPrefix, pipeIDFromOwner]
  simp only [RemotePipeBinding.validate, acceptedBinding, bind_eq_ok,
    failIf_eq_ok, owned, begins, not_or, Classical.not_not]
  have issuer := verified.issuerBound
  have binding := verified.bindingBound
  unfold maxFieldLen at issuer
  unfold maxBytes at binding
  unfold maxRedemptionAddrLen at addressBound
  refine ⟨(), ⟨trivial, by omega⟩, (), ⟨issuer.1, by omega⟩, (),
    ⟨binding.1, by omega⟩, (), ⟨addressBound.1, by omega⟩, (),
    ⟨publicBound.1, by omega⟩, by decide, by decide⟩

/-- Caching a lease never fails, and it leaves the Pipes as they are. -/
theorem cacheLease_run (accepted : AcceptedInvite) :
    ∃ later, (cacheLease prim accepted).run (Home.execute env) home = (.ok accepted, later) ∧
      later.store.pipes = home.store.pipes := by
  unfold cacheLease
  split
  · exact ⟨home, rfl, rfl⟩
  · refine ⟨_, rfl, Home.transact_part Store.pipes home ?_⟩
    intro value written put
    cases outcome : home.store.putAccessLeaseCache _ with
    | error error =>
      rw [outcome] at put
      cases put
    | ok after =>
      rw [outcome] at put
      cases put
      rw [Store.putAccessLeaseCache_eq_ok outcome]

/-- What is left after a redemption that succeeded cannot fail, and it leaves the
Pipes as they are. -/
theorem acceptLease_run
    {recipientPublic : GoString} {lease : AccessLease} (verified : invite.Verified prim)
    (addressBound : address ≠ [] ∧ address.length ≤ maxRedemptionAddrLen)
    (publicBound : recipientPublic ≠ [] ∧ recipientPublic.length ≤ 64)
    (leaseVerifies : ∀ issuer reading, publicFromString invite.issuer = .ok issuer →
      lease.verify prim issuer recipientPublic invite.audiencePipeID
        (env.clock reading) u.clock = .ok ()) :
    ∃ accepted later, (acceptLease prim u invite address recipientPublic lease).run
        (Home.execute env) home = (.ok accepted, later) ∧
      later.store.pipes = home.store.pipes := by
  obtain ⟨issuer, parsed⟩ := verified.issuer
  have valid := acceptedBinding_valid (env.clock home.readings) verified addressBound publicBound
  have stored := Store.putRemotePipeBinding_of_valid home.store valid
    (env.clock (home.readings + 1))
  simp only [acceptLease, parsed, Program.run_call, Home.execute,
    leaseVerifies issuer home.readings parsed, valid, Home.transact, commit,
    stored, Except.map]
  obtain ⟨later, ran, samePipes⟩ := cacheLease_run _
  exact ⟨_, later, ran, samePipes⟩

/-- Accepting a verified invite whose recipient key is already stored, where the
network cooperates: it fails before the redemption, or it succeeds. -/
theorem acceptExactInvite_run {key : PrivateKey}
    {lease : AccessLease} (secrets : blank u.secrets = false) (verified : invite.Verified prim)
    (stored : home.keys.lookup (recipientKeyFile u.secrets invite.audiencePipeID) = some (.ok key))
    (publicBound : key.publicString prim ≠ [] ∧ (key.publicString prim).length ≤ 64)
    (reachable : ∀ address, env.acquire address = .ok ())
    (redeemed : env.redeem invite (key.publicString prim) = .ok lease)
    (leaseVerifies : ∀ issuer reading, publicFromString invite.issuer = .ok issuer →
      lease.verify prim issuer (key.publicString prim) invite.audiencePipeID
        (env.clock reading) u.clock = .ok ()) :
    (Refused (redemptionAddress prim invite) ∧
        ∃ error later, (acceptExactInvite prim u invite).run (Home.execute env)
          home = (.error error, later) ∧
        ¬Redeemed ((acceptExactInvite prim u invite).trace (Home.execute env) home)) ∨
      ¬Refused (redemptionAddress prim invite) ∧
        ∃ accepted later, (acceptExactInvite prim u invite).run
          (Home.execute env) home = (.ok accepted, later) ∧
        later.store.pipes = home.store.pipes ∧
        Redeemed ((acceptExactInvite prim u invite).trace (Home.execute env) home) := by
  have provisioned : home.provision
      (env.freshKey (recipientKeyFile u.secrets invite.audiencePipeID))
      (recipientKeyFile u.secrets invite.audiencePipeID) = (.ok key, home) := by
    unfold Home.provision
    rw [stored]
  simp only [acceptExactInvite, secrets, Bool.false_eq_true, if_false,
    Program.run_call, Program.trace_call, Home.execute, provisioned]
  cases found : redemptionAddress prim invite with
  | error error =>
    refine .inl ⟨⟨error, rfl⟩, error, home, rfl, ?_⟩
    simp [HomeCommand.isRedeem]
  | ok address =>
    refine .inr ⟨by simp [Refused], ?_⟩
    simp only [Program.run_call, Program.trace_call, Home.execute, reachable address, redeemed]
    obtain ⟨accepted, later, ran, samePipes⟩ : ∃ accepted later,
        (acceptLease prim u invite address (key.publicString prim) lease).run
          (Home.execute env) home = (.ok accepted, later) ∧
        later.store.pipes = home.store.pipes :=
      acceptLease_run verified (redemptionAddress_bound verified found) publicBound leaseVerifies
    exact ⟨accepted, later, ran, samePipes, by simp [HomeCommand.isRedeem]⟩

/-! ## The final write -/

/-- The specification of a connection is refused exactly if it targets
itself. -/
theorem connectSpec_refused {ref : Ref} {listen : GoString} (now : Time)
    (remote : matchesResourceName recipient.targetPipeID = true)
    (valid : ref.validate = .ok ()) (isPipe : ref.kind = .pipe) (solid : blank listen = false) :
    Refused (connectSpec prim recipient ref listen now).validate ↔
      ref.name = recipient.targetPipeID := by
  have targetValid := (Ref.validate_pipe recipient.targetPipeID).mpr remote
  have required : ref.requireKind .pipe = .ok () := by
    simp [Ref.requireKind, valid, isPipe]
  have selfTarget : (Ref.mk .pipe recipient.targetPipeID = ref) ↔
      ref.name = recipient.targetPipeID := by
    rw [← isPipe]
    exact ⟨fun same => same ▸ rfl, fun same => same ▸ rfl⟩
  rw [← selfTarget]
  simp only [PipeSpec.validate, connectSpec, required, targetValid]
  by_cases targetsItself : Ref.mk .pipe recipient.targetPipeID = ref
  · simp [targetsItself, failIf, Refused, bind, Except.bind]
  · simp [targetsItself, failIf, Refused, bind, Except.bind, PipeSpec.validateIngress, solid]

/-- The last part fails exactly if it stores a Pipe and the write is refused. -/
theorem connectStore_refused {plan : ConnectPlan} :
    Refused ((connectStore recipient plan).run (Home.execute env) home).1 ↔ plan.upsert = true ∧
        Refused (home.store.putPipe plan.spec plan.keyFile []) := by
  unfold connectStore
  cases plan.upsert with
  | false => simp [Refused]
  | true =>
    simp only [if_true, Program.run_call, Home.execute, Home.transact, commit, true_and]
    cases home.store.putPipe plan.spec plan.keyFile [] with
    | error error => simp [Refused]
    | ok written => simp [Refused]

end Run

/-! ## Failing connects -/

/-- The network cooperates with a command: every address is reachable, and the
redemption of the presented invite for the recipient key returns a lease that
verifies. -/
structure Cooperative (u : UseCases) (input : ConnectExactInput)
    (env : Surroundings) (home : Home) : Prop where
  reachable : ∀ address, env.acquire address = .ok ()
  redeems : ∀ invite key, decodeInvite prim input.invite = .ok invite → (home.provision
      (env.freshKey (recipientKeyFile u.secrets invite.audiencePipeID))
      (recipientKeyFile u.secrets invite.audiencePipeID)).1 = .ok key →
    ∃ lease, env.redeem invite (key.publicString prim) = .ok lease ∧
      ∀ issuer reading, publicFromString invite.issuer = .ok issuer →
        lease.verify prim issuer (key.publicString prim)
          invite.audiencePipeID (env.clock reading) u.clock = .ok ()

/-- The requested name is the identifier of the remote Pipe, and no Pipe with
that name is stored. -/
def SelfConnects (input : ConnectExactInput) (home : Home) : Prop :=
  ∃ invite, decodeInvite prim input.invite = .ok invite ∧
    trimSpace input.name = invite.audiencePipeID ∧
    Refused (home.store.pipe (Ref.mk .pipe invite.audiencePipeID).string)

theorem selfConnects_iff {input : ConnectExactInput} {home : Home} {invite : ExactInvite}
    (decoded : decodeInvite prim input.invite = .ok invite) :
    SelfConnects prim input home ↔ trimSpace input.name = invite.audiencePipeID ∧
        Refused (home.store.pipe (Ref.mk .pipe invite.audiencePipeID).string) := by
  constructor
  · rintro ⟨other, decodedAs, named, absent⟩
    grind
  · exact fun ⟨named, absent⟩ => ⟨invite, decoded, named, absent⟩

/-- Once the local part has succeeded, the final write fails exactly for a Pipe
that would target itself. -/
theorem connectStore_refused_iff {u : UseCases} {input : ConnectExactInput}
    {env : Surroundings} {home middle later : Home}
    {resolved : Recipient × ConnectPlan} (token : input.invite ≠ [])
    (ran : (connectLocal prim u input).run (Home.execute env) home = (.ok resolved, middle))
    (samePipes : later.store.pipes = home.store.pipes) :
    Refused ((connectStore resolved.1 resolved.2).run (Home.execute env) later).1 ↔
      SelfConnects prim input home := by
  obtain ⟨listen, -, invite, key, ref, now, presented, made, plans⟩ :=
    connectLocal_run_ok token ran
  obtain ⟨owner, owned⟩ := presented.verified.owned
  have samePipe (identifier : GoString) :
      later.store.pipe identifier = home.store.pipe identifier := by
    rw [Store.pipe, samePipes, ← Store.pipe]
  rw [owned] at made
  obtain ⟨valid, isPipe, named, sameName⟩ := recipientRefFor_eq_ok prim made
  rw [connectStore_refused, selfConnects_iff prim presented.decoded, owned, ← sameName]
  obtain ⟨planned, newRef, newID⟩ | ⟨reused, present⟩ := plans
  · have target : resolved.1.targetPipeID = pipeIDFromOwner prim owner := by
      rw [presented.resolved, ← owned]
    rw [planned, Store.putPipe_new _ _ (by rw [samePipe]; exact newRef)
      (by rw [samePipe]; exact newID),
      connectSpec_refused now (by
        rw [target]
        exact pipeIDFromOwner_matches prim owner) valid isPipe listen, target]
    refine ⟨fun same => ⟨same.2, ?_⟩, fun same => ⟨rfl, same.1⟩⟩
    have sameRef : Ref.mk .pipe (pipeIDFromOwner prim owner) = ref := by
      rw [← same.2, ← isPipe]
    rw [sameRef]
    exact newRef
  · refine iff_of_false (fun refused => ?_) fun ⟨same, absent⟩ => ?_
    · grind
    · -- the identifier is not empty, so the name was given and the Pipe found
      have given : input.name ≠ [] := by
        grind [trimSpace_nil, pipeIDFromOwner_bytes]
      grind

/-- The local part succeeds with an invite that says where it can be redeemed,
for a new Pipe that is named like its own target. -/
def BurnsInvite (u : UseCases) (input : ConnectExactInput)
    (env : Surroundings) (home : Home) : Prop :=
  (∃ resolved middle invite, (connectLocal prim u input).run (Home.execute env) home =
      (.ok resolved, middle) ∧
    resolved.1.invite = some invite ∧
    ¬Refused (redemptionAddress prim invite)) ∧
  SelfConnects prim input home

/-- **What a failing connect has used up.**  Where the network cooperates, a
`ConnectExact` with an invite that fails has not redeemed it, exactly if its
local part does not succeed for a new Pipe that is named like its own target. -/
theorem connectExact_keeps_invite_iff {u : UseCases}
    {input : ConnectExactInput} {env : Surroundings} {home : Home}
    (keySizes : ∀ secret : Bytes, secret.length = ed25519PrivateKeySize →
      (prim.publicKey secret).length = ed25519PublicKeySize)
    (token : input.invite ≠ []) (cooperative : Cooperative prim u input env home) :
    (Refused ((connectExact prim u input).run (Home.execute env) home).1 →
        ¬Redeemed ((connectExact prim u input).trace (Home.execute env) home)) ↔
      ¬BurnsInvite prim u input env home := by
  have keeps := connectLocal_keeps_invite prim u input env home
  unfold BurnsInvite
  cases ranLocal : (connectLocal prim u input).run (Home.execute env) home with
  | mk outcome middle =>
  cases outcome with
  | error error =>
    grind [Program.andThen_of_error, connectExact]
  | ok resolved =>
    obtain ⟨sameRun, sameTrace⟩ := Program.andThen_of_ok _ ranLocal
      fun resolved => (connectAccess prim u resolved.1).andThen fun _ =>
        connectStore resolved.1 resolved.2
    rw [connectExact, sameRun, sameTrace, Redeemed.append_iff, or_iff_right keeps]
    obtain ⟨-, secrets, invite, key, -, -, presented, -⟩ :=
      connectLocal_run_ok token ranLocal
    obtain ⟨lease, redeems, verifies⟩ :=
      cooperative.redeems invite key presented.decoded presented.provisioned
    have isInvite : resolved.1.invite = some invite := by
      rw [presented.resolved]
    rw [connectAccess, isInvite]
    obtain ⟨missing, error, later, ran, kept⟩ |
        ⟨found, accepted, later, ran, samePipes, used⟩ :=
      acceptExactInvite_run secrets presented.verified presented.stored
        (key.publicString_bound prim keySizes) cooperative.reachable redeems
        verifies
    · grind [Program.andThen_of_error]
    · have succeeded := Program.andThen_of_ok _ ran fun _ => .done (.ok ())
      have stores := Program.andThen_of_ok _ succeeded.1 fun _ =>
        connectStore resolved.1 resolved.2
      grind [PresentedRecipient.store, connectStore_refused_iff, Redeemed.append_iff]

/-- `connect --token <invite> --name <pipe-id>` on an empty home, with the
identifier of the invited Pipe as the name: the invite is redeemed, and then the
command fails. -/
theorem connectExact_burns_invite :
    Refused ((connectExact plain consumer (tokenInput plainPipeID)).run (Home.execute calm) {}).1 ∧
      Redeemed ((connectExact plain consumer (tokenInput plainPipeID)).trace
        (Home.execute calm) {}) := by
  refine ⟨⟨_, rfl⟩, ⟨.redeem (plainInvite 1) (plainPublic recipientSecret),
    .ok (plainLease 1)⟩, ?_, rfl⟩
  exact List.mem_of_getElem? (i := 7) rfl

theorem plain_keySizes (secret : Bytes) (size : secret.length = ed25519PrivateKeySize) :
    (plain.publicKey secret).length = ed25519PublicKeySize := by
  change (secret.take 32).length = 32
  rw [List.length_take, size]
  rfl

theorem plainText_decoded (name : GoString) {invite : ExactInvite}
    (decoded : decodeInvite plain (tokenInput name).invite = .ok invite) : invite = plainInvite 1 :=
  (Except.ok.inj decoded).symm

theorem calm_cooperative (name : GoString) :
    Cooperative plain consumer (tokenInput name) calm {} := by
  refine ⟨fun _ => rfl, ?_⟩
  intro invite key decoded provisioned
  obtain rfl := plainText_decoded name decoded
  obtain rfl := Except.ok.inj provisioned
  refine ⟨plainLease 1, rfl, ?_⟩
  intro issuer reading parsed
  obtain rfl := Except.ok.inj parsed
  rfl

/-- A name that is not a resource name is refused before the redemption. -/
theorem connectExact_keeps_invite_iff_misnamed :
    Refused ((connectExact plain consumer (tokenInput (str "Web"))).run (Home.execute calm) {}).1 ∧
      ¬Redeemed ((connectExact plain consumer (tokenInput (str "Web"))).trace
        (Home.execute calm) {}) := by
  refine ⟨⟨_, rfl⟩, (connectExact_keeps_invite_iff plain plain_keySizes
    (by decide : plainText 1 ≠ []) (calm_cooperative (str "Web"))).mpr ?_
    ⟨_, rfl⟩⟩
  rintro ⟨-, invite, decoded, named, -⟩
  obtain rfl := plainText_decoded (str "Web") decoded
  exact absurd named (by decide)

end Tubo
