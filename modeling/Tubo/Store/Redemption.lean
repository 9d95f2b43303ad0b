import Tubo.Concurrency.Threads
import Tubo.Store.Growth

/-!
# One winner per invite

Package `internal/store`: `RedeemInvite` and `RedeemInviteAndAccept` as
programs, run in any number and any interleaving against one database.

The two methods share the table `invite_redemptions` but are built
differently.  `RedeemInvite` inserts in one statement and, if the row was
already there, reads the recorded client in a second one, so other calls can
come in between.  `RedeemInviteAndAccept` is one transaction that also writes
the accepted relationship.

The invariant is `Store.Accounted`: exact redemption rows and accepted
relationships account for each other.  It is kept by every command on the
database, so nothing about the callers is needed for it.  That a call succeeds
only for the recorded client is a property of the two programs, and holds under
interference because redemption rows never change.
-/

namespace Tubo

open Concurrency

/-! ## The two methods -/

/-- `RedeemInvite`; `now` is the clock reading of the insertion. -/
def redeemInvite (jti pipeID sessionID clientPublic : GoString) (now : Time) : StoreProgram Bool :=
  match Store.redemptionArguments jti pipeID sessionID clientPublic with
  | .error error => .done (.error error)
  | .ok () =>
    .call (.insertRedemption jti pipeID sessionID clientPublic now) fun
      | .error error => .done (.error error)
      | .ok (affected : ℕ) =>
        if affected = 1 then .done (.ok true)
        else if affected = 0 then
          .call (.redemptionClient jti pipeID) fun
            | .error error => .done (.error error)
            | .ok (client : GoString) =>
              if client ≠ clientPublic then
                .done (.error errInviteRedeemed)
              else .done (.ok false)
        else
          .done (.error (.new (str "unexpected invite redemption rows affected: " ++
              Time.padded 1 affected)))

/-- `RedeemInviteAndAccept`: a single transaction. -/
def redeemInviteAndAccept (jti pipeID sessionID clientPublic : GoString)
    (accessEpoch : ℕ) (now : Time) : StoreProgram Bool :=
  .call (.redeemInviteAndAccept jti pipeID sessionID clientPublic accessEpoch now) .done

/-! ## Any interleaving of them -/

/-- A call of one of the two methods. -/
inductive RedemptionCall
  | redeemInvite (jti pipeID sessionID clientPublic : GoString) (now : Time)
  | redeemInviteAndAccept (jti pipeID sessionID clientPublic : GoString)
      (accessEpoch : ℕ) (now : Time)

namespace RedemptionCall

/-- The invite and Pipe a call redeems. -/
def key : RedemptionCall → RedemptionKey
  | redeemInvite jti pipeID _ _ _ => ⟨jti, pipeID⟩
  | redeemInviteAndAccept jti pipeID _ _ _ _ => ⟨jti, pipeID⟩

/-- The client a call redeems for. -/
def client : RedemptionCall → GoString
  | redeemInvite _ _ _ clientPublic _ => clientPublic
  | redeemInviteAndAccept _ _ _ clientPublic _ _ => clientPublic

/-- The code of a call. -/
def code : RedemptionCall → StoreProgram Bool
  | redeemInvite jti pipeID sessionID clientPublic now =>
    Tubo.redeemInvite jti pipeID sessionID clientPublic now
  | redeemInviteAndAccept jti pipeID sessionID clientPublic accessEpoch now =>
    Tubo.redeemInviteAndAccept jti pipeID sessionID clientPublic accessEpoch
      now

end RedemptionCall

/-- Any number of redemption calls with arbitrary arguments, started at any
time. -/
def redemptionSystem : System RedemptionCall StoreCommand StoreCommand.Response
      (Except GoError Bool) Store where
  code := RedemptionCall.code
  exec := StoreExec
  admits _ _ := True

/-! ## Rows and relationships account for each other -/

/-- Every exact redemption row has a relationship for its Pipe and client, and
every relationship names an exact redemption row of its Pipe and recipient. -/
structure Store.Accounted (s : Store) : Prop where
  redemption : ∀ key row, s.inviteRedemptions.lookup key = some row → row.kind = .exact →
    (s.acceptedExactRelationships.lookup ⟨key.pipeID, row.clientPublic⟩).isSome
  relationship : ∀ key relationship, s.acceptedExactRelationships.lookup key = some relationship →
    ∃ row, s.inviteRedemptions.lookup ⟨relationship.inviteJTI, key.pipeID⟩ = some row ∧
      row.kind = .exact ∧ row.clientPublic = key.recipientPublic

/-- Every exact redemption row has a relationship for its Pipe and client. -/
def Store.ExactAccepted (s : Store) : Prop :=
  ∀ key row, s.inviteRedemptions.lookup key = some row → row.kind = .exact →
    (s.acceptedExactRelationships.lookup ⟨key.pipeID, row.clientPublic⟩).isSome

variable {s after : Store} {jti pipeID : GoString}

theorem Store.ExactAccepted.insertRedemption (accepted : s.ExactAccepted)
    (jti pipeID sessionID clientPublic : GoString) (now : Time) :
    (s.insertRedemption jti pipeID sessionID clientPublic now).2.ExactAccepted := by
  intro key row present isExact
  -- The inserted row is scoped, so an exact row was already there.
  refine accepted key row ?_ isExact
  simp only [Store.insertRedemption, Table.insertOrIgnore] at present
  grind [AList.lookup_insert, AList.lookup_insert_ne]

theorem Store.ExactAccepted.acceptFirst (accepted : s.ExactAccepted)
    (absent : s.inviteRedemptions.lookup ⟨jti, pipeID⟩ = none)
    (sessionID clientPublic : GoString) (accessEpoch : ℕ) (stamp : GoString) :
    (s.acceptFirst jti pipeID sessionID clientPublic accessEpoch stamp).ExactAccepted := by
  have grows := Store.acceptFirst_grows absent sessionID clientPublic accessEpoch stamp
  intro key row present isExact
  by_cases same : key = ⟨jti, pipeID⟩
  · subst same
    rw [Store.acceptFirst_inviteRedemptions, AList.lookup_insert] at present
    obtain rfl := Option.some.inj present
    obtain ⟨acceptedAt, written⟩ := s.acceptFirst_relationship_self jti
      pipeID sessionID clientPublic accessEpoch stamp
    rw [written]
    rfl
  · rw [Store.acceptFirst_inviteRedemptions, AList.lookup_insert_ne same] at present
    exact grows.relationships _ (accepted key row present isExact)

theorem Store.Accounted.empty : Store.empty.Accounted :=
  ⟨fun _ _ present => by simp [Store.empty] at present,
    fun _ _ present => by simp [Store.empty] at present⟩

theorem Store.Accounted.insertRedemption (accounted : s.Accounted)
    (jti pipeID sessionID clientPublic : GoString) (now : Time) :
    (s.insertRedemption jti pipeID sessionID clientPublic now).2.Accounted := by
  have grows := s.insertRedemption_grows jti pipeID sessionID clientPublic now
  refine ⟨?_, ?_⟩
  · exact Store.ExactAccepted.insertRedemption accounted.redemption _ _ _ _ _
  · intro key relationship present
    obtain ⟨row, redeemed, isExact, sameClient⟩ :=
      accounted.relationship key relationship present
    exact ⟨row, grows.redemptions _ row redeemed, isExact, sameClient⟩

theorem Store.Accounted.acceptFirst (accounted : s.Accounted)
    (absent : s.inviteRedemptions.lookup ⟨jti, pipeID⟩ = none)
    (sessionID clientPublic : GoString) (accessEpoch : ℕ) (stamp : GoString) :
    (s.acceptFirst jti pipeID sessionID clientPublic accessEpoch stamp).Accounted := by
  have grows := Store.acceptFirst_grows absent sessionID clientPublic accessEpoch stamp
  refine ⟨?_, ?_⟩
  · exact Store.ExactAccepted.acceptFirst accounted.redemption absent _ _ _ _
  · intro key relationship present
    by_cases same : key = ⟨pipeID, clientPublic⟩
    · subst same
      obtain ⟨acceptedAt, written⟩ := s.acceptFirst_relationship_self jti
        pipeID sessionID clientPublic accessEpoch stamp
      rw [written] at present
      obtain rfl := Option.some.inj present
      exact ⟨_, AList.lookup_insert _, rfl, rfl⟩
    · grind [Store.acceptFirst_relationship_other, Store.Accounted.relationship,
      Store.Grows.redemptions]

/-- Every command keeps the accounts. -/
theorem StoreExec.accounted {c : StoreCommand}
    {response : c.Response} (effect : StoreExec c s response after)
    (accounted : s.Accounted) : after.Accounted := by
  rcases effect.cases with
    rfl | ⟨_, _, _, _, _, -, revoked⟩ | ⟨_, _, _, _, _, -, rfl⟩ |
      ⟨_, _, _, _, _, _, _, -, accepted⟩
  · exact accounted
  · obtain ⟨-, -, rfl⟩ := Store.revoke_eq_ok revoked
    exact ⟨accounted.redemption, accounted.relationship⟩
  · exact accounted.insertRedemption _ _ _ _ _
  · obtain ⟨-, ⟨_, -, -, rfl⟩ | ⟨absent, rfl⟩⟩ :=
      Store.redeemInviteAndAccept_eq_ok accepted
    · exact accounted
    · exact accounted.acceptFirst absent _ _ _ _

/-! ## A call succeeds only for the recorded client -/

/-- The database records this client for this invite and Pipe. -/
def Store.Records (s : Store) (key : RedemptionKey) (client : GoString) : Prop :=
  ∃ row, s.inviteRedemptions.lookup key = some row ∧ row.clientPublic = client

theorem Store.Records.grows {key : RedemptionKey}
    {client : GoString} (records : s.Records key client)
    (grows : s.Grows after) : after.Records key client := by
  obtain ⟨row, present, same⟩ := records
  exact ⟨row, grows.redemptions key row present, same⟩

/-- The insertion of `RedeemInvite` affects one row exactly if it records its
own client. -/
theorem insertRedemption_affected
    {sessionID clientPublic : GoString} {now : Time} {affected : ℕ} (inserted : StoreExec
      (.insertRedemption jti pipeID sessionID clientPublic now) s
      (.ok affected) after) (one : affected = 1) :
    after.Records ⟨jti, pipeID⟩ clientPublic := by
  have ran := Prod.mk.inj inserted.insertRedemption_ok
  obtain ⟨count, rfl⟩ := ran
  cases present : s.inviteRedemptions.lookup ⟨jti, pipeID⟩ with
  | some row =>
    rw [Table.insertOrIgnore_some _ present] at count
    omega
  | none =>
    rw [Table.insertOrIgnore_none _ present]
    exact ⟨_, AList.lookup_insert _, rfl⟩

/-- A read of the recorded client. -/
theorem redemptionClient_records {client : GoString}
    (read : StoreExec (.redemptionClient jti pipeID) s (.ok client) after) :
    after.Records ⟨jti, pipeID⟩ client := by
  obtain ⟨found, rfl⟩ := read.redemptionClient_ok
  unfold Store.redemptionClient at found
  split at found
  · rename_i row present
    exact ⟨row, present, Except.ok.inj found⟩
  · cases found

/-- A successful redemption with acceptance records its own client, or found
it recorded. -/
theorem redeemInviteAndAccept_records
    {sessionID clientPublic : GoString} {accessEpoch : ℕ} {now : Time} {won : Bool}
    (accepted : s.redeemInviteAndAccept jti pipeID sessionID clientPublic
      accessEpoch now = .ok (won, after)) :
    after.Records ⟨jti, pipeID⟩ clientPublic := by
  obtain ⟨-, ⟨row, present, same, rfl⟩ | ⟨-, rfl⟩⟩ :=
    Store.redeemInviteAndAccept_eq_ok accepted
  · exact ⟨row, present, same⟩
  · exact ⟨_, AList.lookup_insert _, rfl⟩

/-- The exchanges that record the client of a call, or find it recorded. -/
inductive RedemptionCall.Evidence : RedemptionCall → StoreExchange → Prop
  | inserted (jti pipeID sessionID clientPublic : GoString) (now : Time) :
      Evidence (.redeemInvite jti pipeID sessionID clientPublic now)
        ⟨.insertRedemption jti pipeID sessionID clientPublic now, .ok 1⟩
  | found (jti pipeID sessionID clientPublic : GoString) (now : Time) :
      Evidence (.redeemInvite jti pipeID sessionID clientPublic now)
        ⟨.redemptionClient jti pipeID, .ok clientPublic⟩
  | accepted (jti pipeID sessionID clientPublic : GoString) (accessEpoch : ℕ)
      (now : Time) (won : Bool) :
      Evidence (.redeemInviteAndAccept jti pipeID sessionID clientPublic accessEpoch now)
        ⟨.redeemInviteAndAccept jti pipeID sessionID clientPublic accessEpoch now, .ok won⟩

theorem RedemptionCall.Evidence.records {call : RedemptionCall}
    {exchange : StoreExchange} (evidence : call.Evidence exchange)
    (effect : StoreExec exchange.command s exchange.response after) :
    after.Records call.key call.client := by
  cases evidence with
  | inserted jti pipeID sessionID clientPublic now =>
    exact insertRedemption_affected effect rfl
  | found jti pipeID sessionID clientPublic now =>
    exact redemptionClient_records effect
  | accepted jti pipeID sessionID clientPublic accessEpoch now won =>
    exact redeemInviteAndAccept_records effect.redeemInviteAndAccept_ok

/-- **Exchanges of a redemption call.**  A success has seen evidence for its
client. -/
theorem RedemptionCall.code_conduct (call : RedemptionCall) : call.code.Always (fun _ _ => True)
      (Program.OnSuccess fun history _ =>
        ∃ exchange ∈ history, call.Evidence exchange) [] := by
  cases call with
  | redeemInvite jti pipeID sessionID clientPublic now =>
    unfold code Tubo.redeemInvite
    dsimp only
    split
    · exact Program.Always.failed _ _
    · refine ⟨trivial, ?_⟩
      rintro (error | affected)
      · exact Program.Always.failed _ _
      · dsimp only
        split
        · rename_i one
          subst one
          exact fun _ _ => ⟨_, List.mem_singleton_self _, .inserted ..⟩
        · split
          · refine ⟨trivial, ?_⟩
            rintro (error | client)
            · exact Program.Always.failed _ _
            · dsimp only
              split
              · exact Program.Always.failed _ _
              · rename_i same
                obtain rfl : client = clientPublic :=
                  Classical.not_not.mp same
                exact fun _ _ => ⟨_, List.mem_append_right _ (List.mem_singleton_self _), .found ..⟩
          · exact Program.Always.failed _ _
  | redeemInviteAndAccept jti pipeID sessionID clientPublic accessEpoch now =>
    refine ⟨trivial, ?_⟩
    rintro (error | won)
    · exact Program.Always.failed _ _
    · exact fun _ _ => ⟨_, List.mem_singleton_self _, .accepted ..⟩

/-! ## The result -/

/-- **One winner per invite.**  In every interleaving of `RedeemInvite` and
`RedeemInviteAndAccept` calls from an empty database:

* a redemption row, once written, is there unchanged ever after, so at most one
  client is ever recorded for an invite and a Pipe;
* a call returns without error only for that client;
* exact redemption rows and accepted relationships account for each other;
* an accepted relationship is the only one for its Pipe and recipient. -/
theorem redemption_one_winner {pool : Pool RedemptionCall StoreCommand StoreCommand.Response
      (Except GoError Bool) Store}
    (reachable : redemptionSystem.Reachable Store.empty pool) :
    (∀ event ∈ pool.history, ∀ key row, event.after.inviteRedemptions.lookup key = some row →
        pool.state.inviteRedemptions.lookup key = some row) ∧
      (∀ first ∈ pool.history, ∀ second ∈ pool.history, ∀ key row other,
        first.after.inviteRedemptions.lookup key = some row →
        second.after.inviteRedemptions.lookup key = some other →
        row.clientPublic = other.clientPublic) ∧
      (∀ event ∈ pool.history, ∀ won call, event.action = .returned (.ok won) →
        pool.toWorld.Runs event.thread call →
        pool.state.Records call.key call.client) ∧
      (∀ key row, pool.state.inviteRedemptions.lookup key = some row → row.kind = .exact →
        (pool.state.acceptedExactRelationships.lookup ⟨key.pipeID, row.clientPublic⟩).isSome) ∧
      (∀ key relationship, pool.state.acceptedExactRelationships.lookup key = some relationship →
        ∃ row, pool.state.inviteRedemptions.lookup ⟨relationship.inviteJTI, key.pipeID⟩ = some row ∧
          row.kind = .exact ∧ row.clientPublic = key.recipientPublic) ∧
      (∀ entry ∈ pool.state.acceptedExactRelationships.entries,
        ∀ other ∈ pool.state.acceptedExactRelationships.entries,
        entry.1 = other.1 → entry = other) := by
  have ordered := reachable.ordered Store.Grows.refl Store.Grows.trans
    fun _ _ _ _ effect => StoreExec.grows effect
  have accounted : pool.state.Accounted :=
    reachable.invariant Store.Accounted.empty
      fun _ _ _ _ effect holds => StoreExec.accounted effect holds
  have persists : ∀ event ∈ pool.history, ∀ key row,
      event.after.inviteRedemptions.lookup key = some row →
      pool.state.inviteRedemptions.lookup key = some row :=
    fun event member key row present =>
      (ordered.reached event member).redemptions key row present
  refine ⟨persists, ?_, ?_, accounted.redemption, accounted.relationship, ?_⟩
  · grind
  · intro event member won call isReturn runs
    obtain ⟨job, runsJob, owed⟩ :=
      reachable.returned_post RedemptionCall.code_conduct member isReturn
    obtain rfl := reachable.runs_unique runsJob runs
    obtain ⟨exchange, asked, evidence⟩ := owed won rfl
    obtain ⟨recorded, recordedMember, -, -, effect⟩ :=
      reachable.exec_of_exchange asked
    exact (evidence.records effect).grows (ordered.reached recorded recordedMember)
  · intro entry member other member' sameKey
    exact pool.state.acceptedExactRelationships.nodupKeys.eq_of_fst_eq member member' sameKey

/-- Two clients contend for one invite: the transaction of the first commits
between the start of the second call and its insertion. -/
def contendedPool : Pool RedemptionCall StoreCommand StoreCommand.Response
    (Except GoError Bool) Store :=
  play redemptionSystem Store.execute
    [.spawn (.redeemInvite (str "jti_A") (str "pip_p") (str "ses_1") (str "bob") Time.zero),
      .spawn (.redeemInviteAndAccept (str "jti_A") (str "pip_p") (str "ses_2")
        (str "alice") 0 Time.zero),
      .move 1, .move 0, .move 1, .move 0, .move 0]
    (Pool.start Store.empty)

theorem contendedPool_reachable : redemptionSystem.Reachable Store.empty contendedPool :=
  play_reachable storeExec_execute (System.Reachable.start _) ⟨trivial, trivial, trivial⟩

theorem redemption_one_winner_contended : contendedPool.history.length = 7 ∧
      ((contendedPool.state.inviteRedemptions.lookup
        ⟨str "jti_A", str "pip_p"⟩).map Redemption.clientPublic = some (str "alice")) ∧
      ∀ event ∈ contendedPool.history, ∀ won call, event.action = .returned (.ok won) →
        contendedPool.toWorld.Runs event.thread call →
        contendedPool.state.Records call.key call.client :=
  ⟨by decide, by decide, (redemption_one_winner contendedPool_reachable).2.2.1⟩

end Tubo
