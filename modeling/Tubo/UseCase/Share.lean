import Tubo.ExactAuthority.Authority
import Tubo.Store.Access

/-!
# Sharing an exact Pipe

Package `internal/usecase`, file `share.go`.  `ShareExact` proves ownership of
the Pipe, reads the current pipe-access epoch, provisions the Exact Authority
key and mints an invite at the epoch it read.  The database is read twice: the
Pipe, and the epoch.
-/

namespace Tubo

open Concurrency

variable (prim : Primitives)

/-- `DefaultInviteTTL`. -/
def defaultInviteTTL : Duration := 10 * minute

/-- `persistenceError`. -/
def persistenceError (what : String) (cause : GoError) : GoError :=
  .wrap (str "persistence_failed: " ++ str what ++ str ": ") cause []

/-- `authorizationDenied`. -/
def authorizationDenied (cause : GoError) : GoError :=
  .wrap (str "authorization_denied: ") cause []

/-- What one share works on: the Pipe named by the caller, what the key files
hold, the owner's reachability, the clock and the random bytes. -/
structure ShareRequest where
  pipeRef : GoString
  secrets : GoString
  ownerKeyFile : GoString → Except GoError Bytes
  locateOwner : PipeSpec → Except GoError GoString
  redemptionProtocol : GoString
  provisionKeyFile : GoString → Except GoError Bytes
  now : Time
  random : Except GoError Bytes

/-- `ShareExactResult`.  The returned text is the encoding of `minted`. -/
structure ShareExactResult where
  pipeRef : Ref
  pipeID : GoString
  invite : GoString
  expiresAt : Time
  minted : ExactInvite

/-- The checks of `ShareExact` between the two reads: the owner key, and the
address and protocol at which invites can be redeemed. -/
def shareOwner (r : ShareRequest) (row : PipeRow) : Except GoError (Bytes × GoString) :=
  match r.ownerKeyFile row.ownerKeyFile with
  | .error error => .error (persistenceError "owner key" error)
  | .ok owner => do
      failIf (pipeIDFromOwner prim (prim.publicKey owner) ≠ row.spec.pipeID) (errorsNew
          "authorization_denied: pipe is not owned by this identity")
      let address ← r.locateOwner row.spec
      failIf (blank address) (errorsNew
          "runtime_unavailable: owner exact-redemption locator is unavailable")
      failIf (blank r.redemptionProtocol) (errorsNew
          "runtime_unavailable: owner exact-redemption protocol is unavailable")
      return (owner, trimSpace address)

/-- The rest of `ShareExact` after the epoch is read. -/
def shareMint (r : ShareRequest) (row : PipeRow) (owner : Bytes)
    (address : GoString) (epoch : ℕ) : Except GoError ShareExactResult :=
  match keyPath r.secrets row.spec.pipeID with
  | .error error => .error (persistenceError "exact authority path" error)
  | .ok path =>
    let workflow : LocalOwnerWorkflow :=
      ⟨row.spec.pipeID, epoch, address, r.redemptionProtocol⟩
    match workflow.provision prim owner (r.provisionKeyFile path) with
    | .error error => .error (persistenceError "exact authority" error)
    | .ok auth =>
      match newExactInvite prim auth.secret auth.binding row.spec.pipeID
          r.now defaultInviteTTL epoch r.random with
      | .error error => .error (authorizationDenied error)
      | .ok invite =>
        match encodeInvite prim invite with
        | .error error => .error (authorizationDenied error)
        | .ok encoded =>
          .ok ⟨row.spec.ref, row.spec.pipeID, encoded, invite.expiresAt, invite⟩

/-- `ShareExact`. -/
def shareExact (r : ShareRequest) : StoreProgram ShareExactResult :=
  .call (.pipe r.pipeRef) fun
    | .error error =>
      .done (.error (if error.is errNotFound then
          .wrap (str "not_found: ") error []
        else persistenceError "pipe" error))
    | .ok (row : PipeRow) =>
      match shareOwner prim r row with
      | .error error => .done (.error error)
      | .ok (owner, address) =>
        .call (.revocationEpoch row.spec.pipeID pipeAccess row.spec.pipeID) fun
          | .error error => .done (.error
              (persistenceError "exact authorization epoch" error))
          | .ok (epoch : ℕ) =>
            .done (shareMint prim r row owner address epoch)

/-- A minted invite carries the epoch that was read, and is for the Pipe. -/
theorem shareMint_eq_ok {r : ShareRequest} {row : PipeRow} {owner : Bytes}
    {address : GoString} {epoch : ℕ} {result : ShareExactResult}
    (shared : shareMint prim r row owner address epoch = .ok result) :
    result.minted.accessEpoch = epoch ∧ result.minted.audiencePipeID = row.spec.pipeID ∧
      result.pipeID = row.spec.pipeID := by
  unfold shareMint at shared
  split at shared
  · cases shared
  · dsimp only at shared
    split at shared
    · cases shared
    · split at shared
      · cases shared
      · rename_i invite minted
        split at shared
        · cases shared
        · obtain rfl := Except.ok.inj shared
          obtain ⟨sameEpoch, samePipe⟩ := newExactInvite_eq_ok prim minted
          exact ⟨sameEpoch, samePipe, rfl⟩

/-! ## The exchanges of a share -/

/-- What a share asks the database, after which answers. -/
inductive ShareAsks (r : ShareRequest) :
    List StoreExchange → StoreCommand → Prop
  | pipe : ShareAsks r [] (.pipe r.pipeRef)
  | epoch (row : PipeRow) : ShareAsks r [⟨.pipe r.pipeRef, .ok row⟩]
      (.revocationEpoch row.spec.pipeID pipeAccess row.spec.pipeID)

/-- A minted invite is for the Pipe that was found, at the epoch that was
read. -/
def ShareOwes (r : ShareRequest) (history : List StoreExchange)
    (result : ShareExactResult) : Prop :=
  ∃ row, history = [⟨.pipe r.pipeRef, .ok row⟩,
      ⟨.revocationEpoch result.minted.audiencePipeID pipeAccess
        result.minted.audiencePipeID, .ok result.minted.accessEpoch⟩]

/-- **Exchanges of a share.** -/
theorem shareExact_conduct (r : ShareRequest) : (shareExact prim r).Always (ShareAsks r)
      (Program.OnSuccess (ShareOwes r)) [] := by
  unfold shareExact
  refine ⟨.pipe, ?_⟩
  rintro (error | row)
  · exact Program.Always.failed _ _
  · cases owned : shareOwner prim r row with
    | error error =>
      simp only [owned]
      exact Program.Always.failed _ _
    | ok owner =>
      simp only [owned]
      refine ⟨.epoch row, ?_⟩
      rintro (error | epoch)
      · exact Program.Always.failed _ _
      · intro result shared
        obtain ⟨sameEpoch, samePipe, -⟩ := shareMint_eq_ok prim shared
        refine ⟨row, ?_⟩
        rw [sameEpoch, samePipe]
        rfl

end Tubo
