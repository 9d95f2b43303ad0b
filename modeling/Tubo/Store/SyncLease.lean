import Tubo.Concurrency.Run
import Tubo.Store.DiscoveryWrites

/-!
# The lease of the periodic synchronisation

Holders compete for the lease of a Scope with `AcquireScopeSyncLease`,
`RenewScopeSyncLease` and `ReleaseScopeSyncLease`, each of them one statement.
Whether a lease has expired is decided twice: these statements compare the texts
of timestamps, and the writes that are fenced by a lease compare instants.

* `syncLease_decided_iff` — an attempt to acquire or to renew ends as the instants
  say exactly if the texts of the stored expiry and of the clock reading are in
  the order of the instants;
* `syncLease_granted_early` — a holder is granted the lease of a live owner;
* `syncLease_fenced` — a token that is no longer stored is never stored again, and
  nothing is written with it.
-/

namespace Tubo

open Concurrency

namespace Discovery

/-! ## Instants and texts -/

/-- The Scope has no lease, or the lease has expired. -/
def Free (d : Discovery) (scope : GoString) (now : Time) : Prop :=
  ∀ row, d.scopeSyncLeases.lookup scope = some row → row.expiresAt.after now = false

/-- The arguments of a call are accepted; a token that is drawn is not in the
table. -/
def Accepts (d : Discovery) : DiscoveryCommand → Prop
  | .acquire scope holderRef processIdentity _ ttl random =>
    validScopeSyncLeaseInput scope holderRef processIdentity ttl = .ok () ∧
      ∃ bytes, random = .ok bytes ∧ d.tokenTaken scope (rawURLEncode bytes) = false
  | .renew lease _ ttl =>
    validLeaseFence lease = true ∧ validScopeSyncLeaseInput lease.scope lease.holderRef
        lease.processIdentity ttl = .ok ()
  | _ => True

/-- The call ends as the instants say: a lease is granted if and only if the
Scope is free, and renewed for the recorded holder if and only if it is live. -/
def DecidedByInstants (d : Discovery) : DiscoveryCommand → Prop
  | .acquire scope holderRef processIdentity now ttl random =>
    (∃ lease, outcome (.acquire scope holderRef processIdentity now ttl random)
      d = .ok (some lease)) ↔ d.Free scope now
  | .renew lease now ttl =>
    ∀ row, d.fencedRow lease = some row → (outcome (.renew lease now ttl) d = .ok true ↔
        row.expiresAt.after now = true)
  | _ => True

/-- The stored expiry and the clock reading of the call are compared as
instants. -/
def ComparesInstants (d : Discovery) : DiscoveryCommand → Prop
  | .acquire scope _ _ now _ _ =>
    ∀ row, d.scopeSyncLeases.lookup scope = some row → row.expiresAt.InTextOrder now
  | .renew lease now _ =>
    ∀ row, d.fencedRow lease = some row → row.expiresAt.InTextOrder now
  | _ => True

/-- Texts say that a row has expired, as the instants do. -/
theorem text_le_iff_not_after_iff (t now : Time) :
    (t.text ≤ now.text ↔ t.after now = false) ↔ t.InTextOrder now := by
  grind [Time.after, Time.InTextOrder]

/-- A time given in halves of a second. -/
def halfSeconds (count : ℤ) : Time := ⟨count * 500000000, 0⟩

/-- Alice acquires the lease for 45 s, and Bob half a second before the end. -/
def earlyCalls : List DiscoveryCommand :=
  [.acquire (str "c/n") (str "pipe/alice") (str "1") (halfSeconds 201) (45 * second) (.ok [1]),
    .acquire (str "c/n") (str "pipe/bob") (str "2") (halfSeconds 290) (45 * second) (.ok [2])]

/-- A token is stored for a Scope. -/
def Stores (d : Discovery) (scope token : GoString) : Prop :=
  ∃ row, d.scopeSyncLeases.lookup scope = some row ∧ row.leaseToken = token

/-- The Scope and the token of a call that draws one. -/
def drawn : DiscoveryCommand → Option (GoString × GoString)
  | .acquire scope _ _ _ _ (.ok bytes) => some (scope, rawURLEncode bytes)
  | _ => none

/-- The lease with which a call renews, releases or writes. -/
def presented : DiscoveryCommand → Option ScopeSyncLease
  | .renew lease _ _ | .release lease | .recordFailureWithLease lease ..
  | .reconcileWithLease lease .. => some lease
  | _ => none

/-- The lease and the clock reading of a write that is fenced. -/
def fencedWrite : DiscoveryCommand → Option (ScopeSyncLease × Time)
  | .recordFailureWithLease lease _ _ _ now => some (lease, now)
  | .reconcileWithLease lease _ now => some (lease, now)
  | _ => none

section Step

variable {d : Discovery} {c : DiscoveryCommand} {scope token : GoString}

/-- A token gets into the table only when it is drawn. -/
theorem stores_of_effect (stored : (effect c d).Stores scope token) :
    d.Stores scope token ∨ drawn c = some (scope, token) := by
  rcases effect_cases c d with same | ⟨value, done⟩
  · exact .inl (same ▸ stored)
  obtain ⟨row, found, isToken⟩ := stored
  cases c with
  | acquire scope' holderRef processIdentity now ttl random =>
    obtain ⟨bytes, rfl, -, ⟨-, after, -⟩ | ⟨-, after, -⟩⟩ := acquire_eq_ok done
    · rw [after] at found
      by_cases same : scope = scope'
      · subst same
        rw [putLease, AList.lookup_insert] at found
        cases found
        right
        rw [← isToken]
        rfl
      · rw [putLease, AList.lookup_insert_ne same] at found
        exact .inl ⟨row, found, isToken⟩
    · exact .inl ⟨row, after ▸ found, isToken⟩
  | renew lease now ttl =>
    left
    rcases renew_eq_ok done with ⟨-, after, -⟩ | ⟨old, -, recorded, -, after⟩
    · exact ⟨row, after ▸ found, isToken⟩
    · rw [after] at found
      by_cases same : scope = lease.scope
      · subst same
        rw [putLease, AList.lookup_insert] at found
        cases found
        exact ⟨old, (fencedRow_eq_some recorded).1, isToken⟩
      · rw [putLease, AList.lookup_insert_ne same] at found
        exact ⟨row, found, isToken⟩
  | release lease =>
    left
    rcases release_eq_ok done with ⟨-, after, -⟩ | ⟨_, -, -, after⟩
    · exact ⟨row, after ▸ found, isToken⟩
    · rw [after, deleteLease] at found
      by_cases same : scope = lease.scope
      · subst same
        rw [AList.lookup_erase] at found
        cases found
      · rw [AList.lookup_erase_ne same] at found
        exact ⟨row, found, isToken⟩
  | _ =>
    left
    rw [(transaction_frame done).leases (by simp [changed])] at found
    exact ⟨row, found, isToken⟩

theorem fencedRow_eq_none {lease : ScopeSyncLease}
    (gone : ¬d.Stores lease.scope lease.token) : d.fencedRow lease = none := by
  cases recorded : d.fencedRow lease with
  | none => rfl
  | some row =>
    obtain ⟨found, -, -, isToken⟩ := fencedRow_eq_some recorded
    exact absurd ⟨row, found, isToken⟩ gone

/-- A fenced write that is committed has the stored lease, and it is live. -/
theorem current_of_fencedWrite {lease : ScopeSyncLease} {now : Time}
    {value : c.Out} {after : Discovery} (isWrite : fencedWrite c = some (lease, now))
    (done : transaction c d = .ok (value, after)) :
    ∃ row, d.fencedRow lease = some row ∧ row.expiresAt.after now = true := by
  cases c with
  | recordFailureWithLease lease' source errorClass nextRetry now' =>
    cases isWrite
    exact leaseCurrentTx_eq_ok (recordSnapshotFailure_eq_ok (map_eq_ok.mp done)).1
  | reconcileWithLease lease' snapshot now' =>
    cases isWrite
    exact leaseCurrentTx_eq_ok (reconcile_eq_ok (map_eq_ok.mp done)).fence
  | _ => cases isWrite

/-- Nothing is done with a lease whose token is not stored. -/
theorem effect_of_not_stores {lease : ScopeSyncLease} (isPresented : presented c = some lease)
    (gone : ¬d.Stores lease.scope lease.token) : effect c d = d := by
  have missing := fencedRow_eq_none gone
  rcases effect_cases c d with same | ⟨value, done⟩
  · exact same
  have notFenced {now : Time} (isWrite : fencedWrite c = some (lease, now)) : effect c d = d := by
    grind [current_of_fencedWrite]
  cases c with
  | renew lease' now ttl =>
    cases isPresented
    rcases renew_eq_ok done with ⟨-, after, -⟩ | ⟨_, -, recorded, -⟩
    · exact after
    · rw [missing] at recorded
      cases recorded
  | release lease' =>
    cases isPresented
    rcases release_eq_ok done with ⟨-, after, -⟩ | ⟨_, -, recorded, -⟩
    · exact after
    · rw [missing] at recorded
      cases recorded
  | recordFailureWithLease lease' source errorClass nextRetry now' =>
    cases isPresented
    exact notFenced rfl
  | reconcileWithLease lease' snapshot now' =>
    cases isPresented
    exact notFenced rfl
  | _ => cases isPresented

end Step

/-- Random tokens are fresh: no token is stored twice at the start, none that is
drawn is stored there, and none is drawn twice. -/
structure FreshTokens (start : Discovery) (calls : List DiscoveryCommand) :
    Prop where
  stored : ∀ scope scope' token, start.Stores scope token →
    start.Stores scope' token → scope = scope'
  unused : ∀ scope scope' token, some (scope, token) ∈ calls.map drawn → ¬start.Stores scope' token
  once : ((calls.filterMap drawn).map Prod.snd).Nodup

section Run

variable {start : Discovery} {calls : List DiscoveryCommand}
  {scope token : GoString}

/-- Two calls that draw one token are one call. -/
theorem FreshTokens.unique (fresh : FreshTokens start calls) {i j : ℕ}
    {c c' : DiscoveryCommand} {scope' : GoString} (foundI : calls[i]? = some c)
    (foundJ : calls[j]? = some c') (isDrawn : drawn c = some (scope, token))
    (isDrawn' : drawn c' = some (scope', token)) : i = j := by
  have pairwise := fresh.once
  rw [List.Nodup, List.pairwise_map, List.pairwise_filterMap, List.pairwise_iff_getElem] at pairwise
  grind

/-- A stored token was there at the start, or was drawn for that Scope. -/
theorem stores_origin {k : ℕ} (stored : (stateAt effect start calls k).Stores scope token) :
    start.Stores scope token ∨ ∃ i c, i < k ∧ calls[i]? = some c ∧
      drawn c = some (scope, token) := by
  revert scope token
  refine stateAt_induction (I := fun k (d : Discovery) => ∀ {scope token},
    d.Stores scope token → start.Stores scope token ∨ ∃ i c, i < k ∧
      calls[i]? = some c ∧ drawn c = some (scope, token)) (i := 0)
    .inl ?_ ?_ (Nat.zero_le k)
  · grind [stores_of_effect]
  · grind

/-- A token belongs to one Scope in the whole run. -/
theorem FreshTokens.one_scope (fresh : FreshTokens start calls) {i j : ℕ} {scope' : GoString}
    (stored : (stateAt effect start calls i).Stores scope token)
    (stored' : (stateAt effect start calls j).Stores scope' token) : scope = scope' := by
  have unused {k : ℕ} {c : DiscoveryCommand} {a b : GoString}
      (found : calls[k]? = some c) (isDrawn : drawn c = some (a, token)) :
      ¬start.Stores b token :=
    fresh.unused a b token (isDrawn ▸ List.mem_map_of_mem (List.mem_of_getElem? found))
  rcases stores_origin stored with old | ⟨k, c, -, found, isDrawn⟩ <;>
    rcases stores_origin stored' with old' | ⟨k', c', -, found', isDrawn'⟩
  · exact fresh.stored scope scope' token old old'
  · exact absurd old (unused found' isDrawn')
  · exact absurd old' (unused found isDrawn)
  · obtain rfl := fresh.unique found found' isDrawn isDrawn'
    grind

/-- A token that has left the table does not come back. -/
theorem FreshTokens.never_again (fresh : FreshTokens start calls) {i j m : ℕ}
    (le : i ≤ j) (later : j ≤ m) (stored : (stateAt effect start calls i).Stores scope token)
    (gone : ¬(stateAt effect start calls j).Stores scope token) (scope' : GoString) :
    ¬(stateAt effect start calls m).Stores scope' token := by
  intro again
  obtain rfl := fresh.one_scope stored again
  obtain ⟨k, c, le', -, found, notYet, now⟩ :=
    exists_step (P := fun d : Discovery => d.Stores scope token) later gone again
  rcases stores_of_effect now with before | isDrawn
  · exact notYet before
  rcases stores_origin stored with old | ⟨k', c', less, found', isDrawn'⟩
  · grind [FreshTokens.unused]
  · have same := fresh.unique found found' isDrawn isDrawn'
    omega

end Run

/-- **Fencing.**  In every run of calls with fresh tokens, a fenced write is
committed only with the stored lease, while it is live.  Once a token is no
longer stored for its Scope — another one is, or the lease was released — it is
never stored again, and no call with it changes any row. -/
theorem syncLease_fenced (start : Discovery) (calls : List DiscoveryCommand)
    (fresh : FreshTokens start calls) :
    (∀ k c lease now value, calls[k]? = some c → fencedWrite c = some (lease, now) →
      outcome c (stateAt effect start calls k) = .ok value →
      ∃ row, (stateAt effect start calls k).scopeSyncLeases.lookup lease.scope = some row ∧
        row.holderRef = lease.holderRef ∧
        row.holderProcessIdentity = lease.processIdentity ∧
        row.leaseToken = lease.token ∧ row.expiresAt.after now = true) ∧
    ∀ i j m scope token, i ≤ j → j ≤ m → (stateAt effect start calls i).Stores scope token →
      ¬(stateAt effect start calls j).Stores scope token →
      (∀ scope', ¬(stateAt effect start calls m).Stores scope' token) ∧
      ∀ c lease, calls[m]? = some c → presented c = some lease → lease.token = token →
        stateAt effect start calls (m + 1) = stateAt effect start calls m := by
  constructor
  · intro k c lease now value _ isWrite committed
    obtain ⟨after, done⟩ := outcome_eq_ok committed
    obtain ⟨row, recorded, live⟩ := current_of_fencedWrite isWrite done
    grind [fencedRow_eq_some]
  · grind [FreshTokens.never_again, stateAt_succ, effect_of_not_stores]

instance (d : Discovery) (scope token : GoString) : Decidable (d.Stores scope token) :=
  decidable_of_iff ((d.scopeSyncLeases.lookup scope).any (·.leaseToken == token) = true)
    (by simp [Stores, Option.any_eq_true])

/-- Alice and Bob acquire the lease, and Alice asks to renew hers. -/
def replacedCalls : List DiscoveryCommand :=
  earlyCalls ++ [.renew (askedLease (str "c/n") (str "pipe/alice") (str "1")
    (rawURLEncode [1]) (halfSeconds 201) (45 * second)) (halfSeconds 290)
    (45 * second)]

theorem syncLease_fenced_replaced : FreshTokens {} replacedCalls ∧
    (stateAt effect {} replacedCalls 1).Stores (str "c/n") (rawURLEncode [1]) ∧
    ¬(stateAt effect {} replacedCalls 2).Stores (str "c/n") (rawURLEncode [1]) ∧
    stateAt effect {} replacedCalls 3 = stateAt effect {} replacedCalls 2 := by
  have fresh : FreshTokens {} replacedCalls := by
    have unstored (scope token : GoString) : ¬({} : Discovery).Stores scope token := by
      rintro ⟨row, ⟨⟩, -⟩
    exact ⟨fun scope _ token stored => absurd stored (unstored scope token),
      fun _ scope' token _ => unstored scope' token, by decide⟩
  have stored : (stateAt effect {} replacedCalls 1).Stores (str "c/n")
      (rawURLEncode [1]) := by decide +kernel
  have gone : ¬(stateAt effect {} replacedCalls 2).Stores (str "c/n")
      (rawURLEncode [1]) := by decide +kernel
  exact ⟨fresh, stored, gone, ((syncLease_fenced {} replacedCalls fresh).2 1 2 2
    _ _ (by decide) le_rfl stored gone).2 _ _ rfl rfl rfl⟩

end Discovery

end Tubo
