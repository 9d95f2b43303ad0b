import Tubo.Concurrency.Pool
import Tubo.ExactAuthority.Redeem
import Tubo.ExactAuthority.Renew
import Tubo.Runtime.ExactAuthorizer
import Tubo.UseCase.Share

/-!
# The exact path as a concurrent system

Any number of shares, redemptions, renewals, revocations and authorizations run
against one database.  Each is the program of its own module, so they interleave
at the granularity of single statements and transactions.

Credentials leave the system as return values and come back as presented texts.
`Issued` and `Leased` say that a credential was returned before, and
`accessSystem` starts a redemption or an authorization only with texts that are
not forged: a text that decodes and verifies carries the signed content of a
credential that was issued.  Texts that do not verify are unrestricted.
-/

namespace Tubo

open Concurrency

/-- Two invites with the same signed content. -/
def ExactInvite.SameContent (presented minted : ExactInvite) : Prop :=
  { presented with signature := minted.signature } = minted

/-- Two leases with the same signed content. -/
def AccessLease.SameContent (presented minted : AccessLease) : Prop :=
  { presented with signature := minted.signature } = minted

/-- A call on the exact path.  A redemption and a renewal go through the handler
of the Pipe `pipeID`; an authorization through the authorizer of `pipeID` that
trusts `leasePublic`. -/
inductive AccessCall
  | share (r : ShareRequest)
  | redeem (secretsDir pipeID : GoString) (r : RedeemRequest)
  | renew (secretsDir pipeID requestPipeID : GoString) (r : RenewRequest)
  | revoke (scope subjectType subjectJTI : GoString) (epoch : ℕ) (now : Time)
  | authorize (leasePublic : Bytes) (pipeID : GoString) (req : OpenRequest)

/-- What a successful call returns. -/
inductive AccessOutcome
  | shared (result : ShareExactResult)
  | leased (lease : AccessLease)
  | revoked
  | authorized (authorization : Authorization)

/-- Events, worlds and pools of the exact path. -/
abbrev AccessEvent :=
  Event AccessCall StoreCommand StoreCommand.Response (Except GoError AccessOutcome) Store

abbrev AccessWorld :=
  World AccessCall StoreCommand StoreCommand.Response (Except GoError AccessOutcome) Store

abbrev AccessPool :=
  Pool AccessCall StoreCommand StoreCommand.Response (Except GoError AccessOutcome) Store

variable (prim : Primitives)

/-- `Store.Revoke` as a program: a single transaction. -/
def revokeStatement (scope subjectType subjectJTI : GoString) (epoch : ℕ)
    (now : Time) : StoreProgram Unit :=
  .call (.revoke scope subjectType subjectJTI epoch now) .done

/-- The code of a call. -/
def AccessCall.code : AccessCall →
    Program StoreCommand StoreCommand.Response (Except GoError AccessOutcome)
  | share r => (shareExact prim r).map (·.map .shared)
  | redeem secretsDir pipeID r =>
    (handleRedemption prim secretsDir pipeID r).map (·.map .leased)
  | renew secretsDir pipeID requestPipeID r =>
    (handleRenewal prim secretsDir pipeID requestPipeID r).map (·.map .leased)
  | revoke scope subjectType subjectJTI epoch now =>
    (revokeStatement scope subjectType subjectJTI epoch now).map (·.map fun _ => .revoked)
  | authorize leasePublic pipeID req =>
    (authorizeOpen prim leasePublic pipeID req).map (·.map .authorized)

/-- A share returned an invite with the content of this one. -/
def Issued (history : List AccessEvent) (invite : ExactInvite) : Prop :=
  ∃ event ∈ history, ∃ result, event.action = .returned (.ok (.shared result)) ∧
      invite.SameContent result.minted

/-- A redemption or a renewal returned a lease with the content of this one. -/
def Leased (history : List AccessEvent) (lease : AccessLease) : Prop :=
  ∃ event ∈ history, ∃ minted, event.action = .returned (.ok (.leased minted)) ∧
      lease.SameContent minted

theorem Issued.mono {history later : List AccessEvent} {invite : ExactInvite}
    (issued : Issued history invite) (grows : history <+: later) : Issued later invite := by
  obtain ⟨event, member, rest⟩ := issued
  exact ⟨event, grows.subset member, rest⟩

theorem Leased.mono {history later : List AccessEvent} {lease : AccessLease}
    (leased : Leased history lease) (grows : history <+: later) : Leased later lease := by
  obtain ⟨event, member, rest⟩ := leased
  exact ⟨event, grows.subset member, rest⟩

/-- Signatures are unforgeable: what verifies was issued.  An invite counts if
it is for the Pipe of the handler, a lease if it is presented to an authorizer
that trusts its issuer. -/
def Unforged (history : List AccessEvent) : AccessCall → Prop
  | .redeem _ pipeID r => ∀ invite,
      decodeInvite prim r.encodedInvite = .ok invite →
      invite.audiencePipeID = pipeID →
      invite.verify prim r.now r.clock invite.audiencePipeID = .ok () →
      Issued history invite
  | .authorize leasePublic _ req => ∀ lease,
      decodeLease prim req.accessLease = .ok lease →
      lease.verify prim leasePublic req.clientPublic req.pipeID req.now req.clock = .ok () →
      Leased history lease
  | _ => True

/-- The exact path over one database, with calls started under any policy. -/
def accessSystemUnder (admits : List AccessEvent → AccessCall → Prop) :
    System AccessCall StoreCommand StoreCommand.Response (Except GoError AccessOutcome) Store where
  code := AccessCall.code prim
  exec := StoreExec
  admits := admits

/-- The exact path over one database. -/
def accessSystem : System AccessCall StoreCommand StoreCommand.Response
      (Except GoError AccessOutcome) Store where
  code := AccessCall.code prim
  exec := StoreExec
  admits := Unforged prim

/-! ## Where a lease comes from -/

/-- The first redemption of invite `jti` at a Pipe: the transaction found no
redemption row and wrote row and relationship. -/
def AccessWorld.FirstRedemption (world : AccessWorld)
    (event : AccessEvent) (jti pipeID recipient : GoString) (epoch : ℕ) : Prop :=
  event ∈ world.history ∧ (∃ sessionID now, event.action =
      .ran (.redeemInviteAndAccept jti pipeID sessionID recipient epoch now) (.ok true)) ∧
    event.before.inviteRedemptions.lookup ⟨jti, pipeID⟩ = none

/-- The thread redeems this invite. -/
def AccessWorld.Redeems (world : AccessWorld) (thread : ℕ) (invite : ExactInvite) : Prop :=
  ∃ secretsDir pipeID r, world.Runs thread (.redeem secretsDir pipeID r) ∧
    decodeInvite prim r.encodedInvite = .ok invite

/-- The lease returned by a thread descends from an invite: the thread redeems
that invite, or it renews an accepted relationship that the first redemption of
that invite wrote. -/
inductive AccessWorld.Descends (world : AccessWorld) (thread : ℕ)
    (invite : ExactInvite) : Prop
  | redeemed (redeems : AccessWorld.Redeems prim world thread invite)
  | renewed {secretsDir pipeID requestPipeID : GoString} {r : RenewRequest}
      {jti : GoString} {epoch : ℕ} {read redemption : AccessEvent}
      (runs : world.Runs thread (.renew secretsDir pipeID requestPipeID r))
      (member : read ∈ world.history) (isThread : read.thread = thread)
      (isRead : read.action = .ran (.acceptedRelationship requestPipeID r.recipientPublic)
          (.ok (some (jti, epoch))))
      (wrote : AccessWorld.FirstRedemption world redemption jti requestPipeID
        r.recipientPublic epoch)
      (redeems : AccessWorld.Redeems prim world redemption.thread invite)

/-- The event at position `k` is the epoch read of a thread for a Pipe. -/
def AccessWorld.EpochReadAt (world : AccessWorld) (k thread : ℕ)
    (pipeID : GoString) (epoch : ℕ) : Prop :=
  ∃ event, world.history[k]? = some event ∧ event.thread = thread ∧
    event.action = .ran (.revocationEpoch pipeID pipeAccess pipeID) (.ok epoch)

/-- The invite was minted from an epoch read after position `i`: some share
returned it, and every share that returned it reads the epoch of the Pipe once,
after `i`, and mints at what it reads. -/
def AccessWorld.MintedAfter (world : AccessWorld) (i : ℕ) (invite : ExactInvite) : Prop :=
  Issued world.history invite ∧ ∀ event ∈ world.history, ∀ result,
      event.action = .returned (.ok (.shared result)) →
      invite.SameContent result.minted →
      (∃ k, AccessWorld.EpochReadAt world k event.thread invite.audiencePipeID invite.accessEpoch) ∧
      ∀ k pipeID epoch, AccessWorld.EpochReadAt world k event.thread pipeID epoch →
        i < k ∧ pipeID = invite.audiencePipeID ∧ epoch = invite.accessEpoch

end Tubo
