import Tubo.Concurrency.Pool
import Tubo.Store.Growth

/-!
# The revocation table only moves forward

Package `internal/store`: any number of `Revoke` calls with arbitrary arguments, interleaved in
any way.  `Revoke` takes the write lock of the database before its first query, so a call is one
command; it may also fail with a persistence error.

* `Revocation.step` — what one call does to the epoch of a subject.
* `revocations_move_forward` — over every interleaving.
-/

namespace Tubo

open Concurrency

/-- The arguments of a `Revoke`. -/
structure RevokeCall where
  key : RevocationKey
  epoch : ℕ
  now : Time

/-- Goroutines that call `Revoke`. -/
def revokeSystem :
    System RevokeCall StoreCommand StoreCommand.Response (Except GoError Unit) Store where
  code call := .call (.revoke call.key.scope call.key.subjectType call.key.subjectJTI call.epoch
    call.now) .done
  exec := StoreExec
  admits _ _ := True

abbrev RevokePool := Pool RevokeCall StoreCommand StoreCommand.Response (Except GoError Unit) Store

abbrev RevokeAction := Action RevokeCall StoreCommand StoreCommand.Response (Except GoError Unit)

abbrev RevokeEvent :=
  Event RevokeCall StoreCommand StoreCommand.Response (Except GoError Unit) Store

/-- The epoch of a subject. -/
def Store.epochOf (s : Store) (key : RevocationKey) : ℕ :=
  s.revocationEpoch key.scope key.subjectType key.subjectJTI

/-- The epoch that an action has written for a subject. -/
def writtenEpoch (key : RevocationKey) : RevokeAction → Option ℕ
  | .ran (.revoke scope subjectType subjectJTI epoch _) (.ok _) =>
    if key = ⟨scope, subjectType, subjectJTI⟩ then some epoch else none
  | _ => none

/-- The epochs of the successful calls for a subject. -/
def writtenEpochs (key : RevocationKey) (history : List RevokeEvent) : List ℕ :=
  history.filterMap fun event => writtenEpoch key event.action

/-! ## One call -/

section Call

variable {s after : Store} {scope subjectType subjectJTI : GoString} {epoch : ℕ} {now : Time}
  {response : Except GoError Unit}

/-- A call fails and changes nothing, or writes the row of its subject. -/
theorem revoke_cases
    (effect : StoreExec (.revoke scope subjectType subjectJTI epoch now) s response after) :
    (∃ error, response = .error error) ∧ after = s ∨
      response = .ok () ∧ s.revoke scope subjectType subjectJTI epoch now = .ok after := by
  cases response with
  | ok value => exact .inr ⟨rfl, effect.revoke_ok⟩
  | error error =>
    refine .inl ⟨⟨error, rfl⟩, ?_⟩
    rcases effect with ran | ⟨_, -, unchanged⟩
    · cases outcome : s.revoke scope subjectType subjectJTI epoch now with
      | error failure =>
        simp only [Store.execute, outcome] at ran
        exact (Prod.mk.inj ran).2
      | ok written =>
        simp only [Store.execute, outcome] at ran
        cases (Prod.mk.inj ran).1
    · exact unchanged

/-- Other commands leave the table alone. -/
theorem StoreExec.revocations {c : StoreCommand} {answer : c.Response}
    (effect : StoreExec c s answer after) (other : ∀ scope subjectType subjectJTI epoch now,
      c ≠ .revoke scope subjectType subjectJTI epoch now) : after.revocations = s.revocations := by
  rcases effect.cases with rfl | ⟨_, _, _, _, _, same, -⟩ | ⟨_, _, _, _, _, -, rfl⟩ |
    ⟨_, _, _, _, _, _, _, -, accepted⟩
  · rfl
  · cases same
    exact absurd rfl (other _ _ _ _ _)
  · rfl
  · obtain ⟨-, ⟨_, -, -, rfl⟩ | ⟨-, rfl⟩⟩ := Store.redeemInviteAndAccept_eq_ok accepted
    · rfl
    · rfl

/-- A row changes only if a call writes it, and then to an epoch that is not smaller. -/
theorem StoreExec.row {c : StoreCommand} {answer : c.Response} (effect : StoreExec c s answer after)
    (key : RevocationKey) : (writtenEpoch key (.ran c answer) = none →
        after.revocations.lookup key = s.revocations.lookup key) ∧
      ∀ written, writtenEpoch key (.ran c answer) = some written →
        s.epochOf key ≤ written ∧ after.epochOf key = written := by
  unfold writtenEpoch
  cases c with
  | revoke scope subjectType subjectJTI epoch now =>
    rcases revoke_cases effect with ⟨⟨error, rfl⟩, rfl⟩ | ⟨rfl, revoked⟩
    · exact ⟨fun _ => rfl, by rintro _ ⟨⟩⟩
    · dsimp only
      split
      · rename_i same
        subst same
        refine ⟨by rintro ⟨⟩, ?_⟩
        rintro _ ⟨⟩
        exact ⟨(Store.revoke_eq_ok revoked).2.1, Store.revoke_revocationEpoch_self revoked⟩
      · rename_i different
        exact ⟨fun _ => Store.revoke_lookup_other revoked different, by rintro _ ⟨⟩⟩
  | _ =>
    refine ⟨fun _ => ?_, by rintro _ ⟨⟩⟩
    rw [effect.revocations (by rintro _ _ _ _ _ ⟨⟩)]

end Call

/-! ## Every interleaving -/

section Runs

variable {start : Store} {pool next : RevokePool}

/-- An event takes the maximum of the epoch that is there and the one that it writes. -/
theorem revoke_step (step : revokeSystem.Step pool next) (key : RevocationKey) :
    ∃ event, next.history = pool.history ++ [event] ∧ next.state.epochOf key =
      (writtenEpoch key event.action).toList.foldl max (pool.state.epochOf key) := by
  cases step with
  | spawn _ => exact ⟨_, rfl, rfl⟩
  | finish _ => exact ⟨_, rfl, rfl⟩
  | @move _ command _ response _ _ effect =>
    refine ⟨_, rfl, ?_⟩
    obtain ⟨unwritten, written⟩ := StoreExec.row effect key
    dsimp only [World.record_state]
    cases isWritten : writtenEpoch key (.ran command response) with
    | none => exact Store.revocationEpoch_congr (unwritten isWritten)
    | some epoch =>
      obtain ⟨larger, now⟩ := written epoch isWritten
      rw [now]
      exact (max_eq_right larger).symm

/-- The epoch of a subject is the maximum over the successful calls. -/
theorem epochOf_eq_max (reachable : revokeSystem.Reachable start pool) (key : RevocationKey) :
    pool.state.epochOf key = (writtenEpochs key pool.history).foldl max (start.epochOf key) := by
  induction reachable with
  | refl => rfl
  | tail _ step ih =>
    obtain ⟨event, isHistory, isEpoch⟩ := revoke_step step key
    rw [isHistory, isEpoch, ih]
    unfold writtenEpochs
    rw [List.filterMap_append, List.foldl_append]
    cases isWritten : writtenEpoch key event.action with
    | none => simp [isWritten]
    | some epoch => simp [isWritten]

/-- **The revocation table only moves forward.**  The epoch of a subject is the maximum over the
successful calls for it and what was there at the start; neither it nor the revocation is ever
taken back; a failed call changes nothing, and no call changes a row of another subject. -/
theorem revocations_move_forward (reachable : revokeSystem.Reachable start pool) :
    (∀ key, pool.state.epochOf key =
      (writtenEpochs key pool.history).foldl max (start.epochOf key)) ∧
    (∀ next, Relation.ReflTransGen revokeSystem.Step pool next → ∀ key : RevocationKey,
      pool.state.epochOf key ≤ next.state.epochOf key ∧
      (pool.state.isRevoked key.scope key.subjectType key.subjectJTI = true →
        next.state.isRevoked key.scope key.subjectType key.subjectJTI = true)) ∧
    ∀ event ∈ pool.history, ∀ scope subjectType subjectJTI epoch now response,
      event.action = .ran (.revoke scope subjectType subjectJTI epoch now) response →
      ((∃ error, response = .error error) → event.after = event.before) ∧
      ∀ key, key ≠ ⟨scope, subjectType, subjectJTI⟩ →
        event.after.revocations.lookup key = event.before.revocations.lookup key := by
  refine ⟨epochOf_eq_max reachable, ?_, ?_⟩
  · intro next steps key
    have grows : pool.state.Grows next.state := by
      induction steps with
      | refl => exact Store.Grows.refl _
      | tail _ step ih =>
        apply ih.trans
        cases step with
        | spawn _ => exact Store.Grows.refl _
        | finish _ => exact Store.Grows.refl _
        | move _ effect => exact StoreExec.grows effect
    exact ⟨grows.revocationEpoch_le _ _ _, grows.isRevoked⟩
  · intro event member scope subjectType subjectJTI epoch now response isRan
    have effect := reachable.exec_of_mem member isRan
    rcases revoke_cases effect with ⟨-, unchanged⟩ | ⟨rfl, revoked⟩
    · exact ⟨fun _ => unchanged, fun key _ => by rw [unchanged]⟩
    · exact ⟨by rintro ⟨_, ⟨⟩⟩, fun key => Store.revoke_lookup_other revoked⟩

end Runs

/-- Two calls for one subject, the later one with a smaller epoch. -/
def Sample.revocations : RevokePool :=
  let key : RevocationKey := ⟨str "s", str "pipe-access", str "p"⟩
  play revokeSystem Store.execute [.spawn ⟨key, 7, .zero⟩, .spawn ⟨key, 5, .zero⟩, .move 0, .move 1]
    (Pool.start {})

theorem revocations_move_forward_sample : Sample.revocations.history.length = 4 ∧
    Sample.revocations.state.epochOf ⟨str "s", str "pipe-access", str "p"⟩ = 7 ∧
    ∀ next, Relation.ReflTransGen revokeSystem.Step Sample.revocations next →
      7 ≤ next.state.epochOf ⟨str "s", str "pipe-access", str "p"⟩ := by
  have reachable : revokeSystem.Reachable {} Sample.revocations :=
    play_reachable storeExec_execute (System.Reachable.start _) ⟨trivial, trivial, trivial⟩
  have isEpoch : Sample.revocations.state.epochOf ⟨str "s", str "pipe-access", str "p"⟩ = 7 := by
    decide +kernel
  refine ⟨by decide +kernel, isEpoch, fun next steps => ?_⟩
  have larger := ((revocations_move_forward reachable).2.1 next steps
    ⟨str "s", str "pipe-access", str "p"⟩).1
  rwa [isEpoch] at larger

end Tubo
