import Tubo.Concurrency.Program
import Tubo.Store.Schema

/-!
# Revocations, redemptions and accepted relationships

Package `internal/store`, file `store.go`: the statements and transactions that
decide access to an exact Pipe.  Each is a function of the database, and an
error leaves the database as it was — a failed transaction is rolled back.

`StoreCommand` is the signature of these statements.  One command is one atomic
step: a single SQL statement outside a transaction, or a whole transaction.
A Go method that issues several statements is a program over this signature.
-/

namespace Tubo

open Concurrency

/-- The subject types under which epochs are kept. -/
def pipeAccess : GoString := str "pipe-access"
def pipePublish : GoString := str "pipe-publish"

/-- The subject type of a revoked exact invite. -/
def exactInviteSubject : GoString := str "exact.invite"

/-- The subject type of a revoked Access Lease. -/
def accessLeaseSubject : GoString := str "access-lease"

/-- The subject type of a revoked Scope-based share. -/
def shareInviteSubject : GoString := str "share.invite"

/-- `ErrInviteRedeemed`. -/
def errInviteRedeemed : GoError :=
  .sentinel (str "invite already redeemed by another client")

/-- `sql.ErrNoRows`. -/
def errNoRows : GoError := .sentinel (str "sql: no rows in result set")

/-- The error of `database/sql` for a `uint64` that does not fit a column. -/
def errHighBit : GoError :=
  errorsNew "sql: converting argument: uint64 values with high bit set are not supported"

namespace Store

/-! ## Revocations -/

/-- `RevocationEpoch`. -/
def revocationEpoch (s : Store) (scope subjectType subjectJTI : GoString) : ℕ :=
  match s.revocations.lookup ⟨scope, subjectType, subjectJTI⟩ with
  | some row => row.epoch
  | none => 0

/-- `IsRevoked`. -/
def isRevoked (s : Store) (scope subjectType subjectJTI : GoString) : Bool :=
  (s.revocations.lookup ⟨scope, subjectType, subjectJTI⟩).isSome

/-- The upsert of `Revoke`, which keeps a row with a larger epoch. -/
def putRevocation (s : Store) (key : RevocationKey) (row : Revocation) : Store :=
  match s.revocations.lookup key with
  | some existing =>
    if existing.epoch ≤ row.epoch then
      { s with revocations := s.revocations.insert key row }
    else s
  | none => { s with revocations := s.revocations.insert key row }

/-- `Revoke`, at the time `now`. -/
def revoke (s : Store) (scope subjectType subjectJTI : GoString) (epoch : ℕ)
    (now : Time) : Except GoError Store := do
  failIf (blank scope ∨ blank subjectType ∨ blank subjectJTI ∨
      8192 < scope.length ∨ 128 < subjectType.length ∨
      8192 < subjectJTI.length)
    (errorsNew "invalid revocation")
  failIf (epoch = 0) (errorsNew "invalid revocation epoch")
  let key : RevocationKey := ⟨scope, subjectType, subjectJTI⟩
  failIf (((s.revocations.lookup key).any fun row => epoch < row.epoch) = true)
    (errorsNew "revocation epoch rollback")
  -- The second query of the source selects the maximum over the same key.
  failIf ((subjectType = pipeAccess ∨ subjectType = pipePublish) ∧
      ((s.revocations.lookup key).any fun row => epoch < row.epoch) = true)
    (errorsNew "revocation epoch rollback")
  failIf (int64Size ≤ epoch) errHighBit
  return s.putRevocation key ⟨now.utc.formatRFC3339Nano, epoch⟩

/-! ## Redemptions -/

/-- The insertion of `RedeemInvite`, which does not name the kind, so that the
column takes its default; the result is the number of affected rows. -/
def insertRedemption (s : Store) (jti pipeID sessionID clientPublic : GoString)
    (now : Time) : ℕ × Store :=
  let inserted := Table.insertOrIgnore s.inviteRedemptions ⟨jti, pipeID⟩
    ⟨now.utc.formatRFC3339Nano, sessionID, clientPublic, .scoped⟩
  (inserted.1, { s with inviteRedemptions := inserted.2 })

/-- The query of `RedeemInvite` and `RedeemInviteAndAccept` for the recorded
client. -/
def redemptionClient (s : Store) (jti pipeID : GoString) : Except GoError GoString :=
  match s.inviteRedemptions.lookup ⟨jti, pipeID⟩ with
  | some row => .ok row.clientPublic
  | none => .error errNoRows

/-- The upsert of the relationship in `RedeemInviteAndAccept`: a replaced row
keeps its `accepted_at`. -/
def putRelationship (s : Store) (key : RelationshipKey)
    (jti : GoString) (accessEpoch : ℕ) (stamp : GoString) : Store :=
  let acceptedAt :=
    match s.acceptedExactRelationships.lookup key with
    | some existing => existing.acceptedAt
    | none => stamp
  let row : Relationship := ⟨jti, accessEpoch, acceptedAt, stamp⟩
  { s with acceptedExactRelationships :=
      s.acceptedExactRelationships.insert key row }

/-- The error for blank arguments of either redemption. -/
def redemptionArguments (jti pipeID sessionID clientPublic : GoString) : Except GoError Unit :=
  failIf (blank jti ∨ blank pipeID ∨ blank sessionID ∨ blank clientPublic)
    (errorsNew "invalid invite redemption")

/-- `RedeemInviteAndAccept`. -/
def redeemInviteAndAccept (s : Store)
    (jti pipeID sessionID clientPublic : GoString) (accessEpoch : ℕ)
    (now : Time) : Except GoError (Bool × Store) := do
  redemptionArguments jti pipeID sessionID clientPublic
  let stamp := now.utc.formatRFC3339Nano
  match Table.insertOrIgnore s.inviteRedemptions ⟨jti, pipeID⟩
      ⟨stamp, sessionID, clientPublic, .exact⟩ with
  | (1, redemptions) => do
      failIf (int64Size ≤ accessEpoch) errHighBit
      return (true, ({ s with inviteRedemptions := redemptions }).putRelationship
          ⟨pipeID, clientPublic⟩ jti accessEpoch stamp)
  | (0, _) => do
      let client ← s.redemptionClient jti pipeID
      failIf (client ≠ clientPublic) errInviteRedeemed
      return (true, s)
  | _ => .error (errorsNew "unexpected invite redemption rows affected")

/-- `AcceptedRelationship`: the backing invite and the accepted epoch. -/
def acceptedRelationship (s : Store) (pipeID clientPublic : GoString) :
    Except GoError (Option (GoString × ℕ)) := do
  failIf (blank pipeID ∨ blank clientPublic) (errorsNew "invalid accepted relationship lookup")
  return (s.acceptedExactRelationships.lookup ⟨pipeID, clientPublic⟩).map
    fun row => (row.inviteJTI, row.accessEpoch)

/-- `ExactRedemptionPipeForInvite`: some Pipe for which this invite was
redeemed through the exact path.  The query has no order; the model takes the
latest row. -/
def exactRedemptionPipeForInvite (s : Store) (jti : GoString) :
    Except GoError (Option GoString) := do
  failIf (blank jti) (errorsNew "invalid exact redemption lookup")
  return (s.inviteRedemptions.entries.find? fun entry =>
    entry.1.jti == jti && entry.2.kind == .exact).map fun entry => entry.1.pipeID

/-! ## Lookups of the command line -/

/-- `Pipe`: by reference or by identifier. -/
def pipe (s : Store) (identifier : GoString) : Except GoError PipeRow :=
  match s.pipes.entries.find? fun entry =>
      entry.1 == identifier || entry.2.pipeID == identifier with
  | some entry => .ok entry.2
  | none => .error (.wrap [] errNotFound (str ": pipe " ++ identifier))

/-- `Membership`. -/
def membership (s : Store) (scope : GoString) : Except GoError Membership :=
  match s.memberships.lookup scope with
  | some row => .ok row
  | none => .error (.wrap [] errNotFound (str ": membership " ++ scope))

/-- The least key of a table, as `ORDER BY … LIMIT 1` selects it. -/
def firstKey {ν : Type} (table : Table GoString ν) : Option GoString :=
  table.keys.foldl (fun best key =>
    match best with
    | none => some key
    | some least => if key < least then some key else some least) none

/-- `CurrentScope`. -/
def resolveCurrentScope (s : Store) : Except GoError GoString :=
  if s.currentScope ≠ [] then
    if (s.scopes.lookup s.currentScope).isSome ||
        (s.memberships.lookup s.currentScope).isSome then
      .ok s.currentScope
    else
      .error (.wrap [] errNotFound (str ": current scope " ++ s.currentScope))
  else
    match firstKey s.scopes, firstKey s.memberships with
    | some scope, _ => .ok scope
    | none, some scope => .ok scope
    | none, none => .error (.wrap [] errNotFound (str ": no scope"))

end Store

/-! ## The signature -/

/-- One atomic step of the database. -/
inductive StoreCommand
  | revoke (scope subjectType subjectJTI : GoString) (epoch : ℕ) (now : Time)
  | revocationEpoch (scope subjectType subjectJTI : GoString)
  | isRevoked (scope subjectType subjectJTI : GoString)
  | insertRedemption (jti pipeID sessionID clientPublic : GoString)
      (now : Time)
  | redemptionClient (jti pipeID : GoString)
  | redeemInviteAndAccept (jti pipeID sessionID clientPublic : GoString)
      (accessEpoch : ℕ) (now : Time)
  | acceptedRelationship (pipeID clientPublic : GoString)
  | exactRedemptionPipeForInvite (jti : GoString)
  | pipe (identifier : GoString)
  | membership (scope : GoString)
  | currentScope

/-- What a command returns if it succeeds. -/
@[reducible]
def StoreCommand.Out : StoreCommand → Type
  | .revoke .. => Unit
  | .revocationEpoch .. => ℕ
  | .isRevoked .. => Bool
  | .insertRedemption .. => ℕ
  | .redemptionClient .. => GoString
  | .redeemInviteAndAccept .. => Bool
  | .acceptedRelationship .. => Option (GoString × ℕ)
  | .exactRedemptionPipeForInvite .. => Option GoString
  | .pipe .. => PipeRow
  | .membership .. => Membership
  | .currentScope => GoString

/-- A command returns its result or an error. -/
abbrev StoreCommand.Response (c : StoreCommand) : Type :=
  Except GoError c.Out

/-- A command together with its response. -/
abbrev StoreExchange := Exchange StoreCommand StoreCommand.Response

/-- A Go function over the database. -/
abbrev StoreProgram (α : Type) :=
  Program StoreCommand StoreCommand.Response (Except GoError α)

/-- A transaction either commits its result or leaves the database alone. -/
def commit {α : Type} (s : Store) : Except GoError (α × Store) → Except GoError α × Store
  | .ok (value, after) => (.ok value, after)
  | .error error => (.error error, s)

/-- The effect of a command on the database. -/
def Store.execute : (c : StoreCommand) → Store → c.Response × Store
  | .revoke scope subjectType subjectJTI epoch now, s =>
    let revoked := s.revoke scope subjectType subjectJTI epoch now
    (commit s (revoked.map ((), ·)) : Except GoError Unit × Store)
  | .revocationEpoch scope subjectType subjectJTI, s =>
    (.ok (s.revocationEpoch scope subjectType subjectJTI), s)
  | .isRevoked scope subjectType subjectJTI, s =>
    (.ok (s.isRevoked scope subjectType subjectJTI), s)
  | .insertRedemption jti pipeID sessionID clientPublic now, s =>
    let inserted := s.insertRedemption jti pipeID sessionID clientPublic now
    (.ok inserted.1, inserted.2)
  | .redemptionClient jti pipeID, s => (s.redemptionClient jti pipeID, s)
  | .redeemInviteAndAccept jti pipeID sessionID clientPublic epoch now, s =>
    (commit s (s.redeemInviteAndAccept jti pipeID sessionID clientPublic
      epoch now) : Except GoError Bool × Store)
  | .acceptedRelationship pipeID clientPublic, s =>
    (s.acceptedRelationship pipeID clientPublic, s)
  | .exactRedemptionPipeForInvite jti, s =>
    (s.exactRedemptionPipeForInvite jti, s)
  | .pipe identifier, s => (s.pipe identifier, s)
  | .membership scope, s => (s.membership scope, s)
  | .currentScope, s => (s.resolveCurrentScope, s)

/-- What a command may do: take its effect, or fail with a persistence error
and leave the database unchanged. -/
def StoreExec (c : StoreCommand) (s : Store) (response : c.Response) (after : Store) : Prop :=
  (response, after) = Store.execute c s ∨ ∃ error, response = .error error ∧ after = s

theorem storeExec_execute (c : StoreCommand) (s : Store) :
    StoreExec c s (Store.execute c s).1 (Store.execute c s).2 :=
  Or.inl rfl

/-! ## What a successful command returned -/

theorem commit_eq_ok {α : Type} {s after : Store} {value : α}
    {transaction : Except GoError (α × Store)}
    (committed : commit s transaction = (.ok value, after)) : transaction = .ok (value, after) := by
  cases transaction with
  | error error => cases committed
  | ok result =>
    cases committed
    rfl

namespace StoreExec

variable {s after : Store} {scope subjectType subjectJTI : GoString}
  {jti pipeID sessionID clientPublic : GoString} {epoch : ℕ} {now : Time}

theorem ok {c : StoreCommand} {value : c.Out} (effect : StoreExec c s (.ok value) after) :
    Store.execute c s = (.ok value, after) := by
  rcases effect with ran | ⟨_, failed, -⟩
  · exact ran.symm
  · cases failed

theorem revoke_ok (effect : StoreExec (.revoke scope subjectType subjectJTI epoch now) s
      (.ok ()) after) :
    s.revoke scope subjectType subjectJTI epoch now = .ok after := by
  have committed := commit_eq_ok (α := Unit) effect.ok
  cases outcome : s.revoke scope subjectType subjectJTI epoch now with
  | error error =>
    rw [outcome] at committed
    cases committed
  | ok written =>
    rw [outcome] at committed
    cases committed
    rfl

theorem revocationEpoch_ok {value : ℕ}
    (effect : StoreExec (.revocationEpoch scope subjectType subjectJTI) s (.ok value) after) :
    s.revocationEpoch scope subjectType subjectJTI = value ∧ after = s := by
  cases effect.ok
  exact ⟨rfl, rfl⟩

theorem isRevoked_ok {value : Bool} (effect : StoreExec (.isRevoked scope subjectType subjectJTI) s
      (.ok value) after) :
    s.isRevoked scope subjectType subjectJTI = value ∧ after = s := by
  cases effect.ok
  exact ⟨rfl, rfl⟩

theorem insertRedemption_ok {affected : ℕ} (effect : StoreExec
      (.insertRedemption jti pipeID sessionID clientPublic now) s
      (.ok affected) after) :
    s.insertRedemption jti pipeID sessionID clientPublic now = (affected, after) := by
  cases effect.ok
  rfl

theorem redemptionClient_ok {client : GoString}
    (effect : StoreExec (.redemptionClient jti pipeID) s (.ok client) after) :
    s.redemptionClient jti pipeID = .ok client ∧ after = s := by
  have ran := Prod.mk.inj effect.ok
  exact ⟨ran.1, ran.2.symm⟩

theorem redeemInviteAndAccept_ok {won : Bool}
    (effect : StoreExec (.redeemInviteAndAccept jti pipeID sessionID
      clientPublic epoch now) s (.ok won) after) :
    s.redeemInviteAndAccept jti pipeID sessionID clientPublic epoch now = .ok (won, after) :=
  commit_eq_ok (α := Bool) effect.ok

theorem acceptedRelationship_ok {found : Option (GoString × ℕ)}
    (effect : StoreExec (.acceptedRelationship pipeID clientPublic) s (.ok found) after) :
    s.acceptedRelationship pipeID clientPublic = .ok found ∧ after = s := by
  have ran := Prod.mk.inj effect.ok
  exact ⟨ran.1, ran.2.symm⟩

end StoreExec

end Tubo
