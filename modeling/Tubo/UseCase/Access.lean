import Tubo.UseCase.Accept

/-!
# What an acquisition of access trusts

Package `internal/usecase`, file `accept.go`: `AcquireAcceptedPipeAccess` answers with the
lease of its cache or with the one of a renewal.  Both are foreign: the cache may hold
anything, and so may the reply.

* `acquire_trusts_verified` — the lease of an answer was verified during the call, no step
  changes the bindings or the Pipes, and the cache changes as verification and expiry allow.
-/

namespace Tubo

open Concurrency

namespace Home

/-- The effect of a step, where `GetAccessLeaseCache` has a clock reading of its own. -/
def executeAccess (env : Surroundings) : (c : HomeCommand) → Home → c.Response × Home
  | .getAccessLeaseCache remotePipeID, h =>
    let read := h.store.getAccessLeaseCache remotePipeID (env.clock h.readings)
    (read.1, { h with store := read.2, readings := h.readings + 1 })
  | c, h => h.execute env c

variable (prim : Primitives) (u : UseCases) (env : Surroundings)

/-- The lease verifies under the authority of a binding, for its recipient and a Pipe, at
one of the clock readings from `first` to before `last`. -/
def VerifiedBetween (binding : RemotePipeBinding) (remotePipeID : GoString)
    (lease : AccessLease) (first last : ℕ) : Prop :=
  ∃ authorityPub k, publicFromString binding.authorityPublic = .ok authorityPub ∧
    first ≤ k ∧ k < last ∧
    lease.verify prim authorityPub binding.recipientPublic remotePipeID (env.clock k)
      u.clock = .ok ()

/-- What one step may do to the cache row of a Pipe, in a call that began at the reading
`first`. -/
inductive CacheStep (first : ℕ) (h after : Home) (pipe : GoString) : Prop
  | kept (same : after.store.exactLeaseCache.lookup pipe =
      h.store.exactLeaseCache.lookup pipe)
  | deleted (row : AccessLeaseCache) (k : ℕ)
      (found : h.store.exactLeaseCache.lookup pipe = some row)
      (during : first ≤ k ∧ k < after.readings)
      (expired : row.expiresAt.after (env.clock k).utc = false ∨ row.expiresAt.isZero = true)
      (gone : after.store.exactLeaseCache.lookup pipe = none)
  | replaced (binding : RemotePipeBinding) (lease : AccessLease) (text : GoString)
      (bound : h.store.remotePipeBindings.lookup pipe = some binding)
      (verified : VerifiedBetween prim u env binding pipe lease first h.readings)
      (encoded : encodeLease prim lease = .ok text)
      (put : after.store.exactLeaseCache.lookup pipe = some ⟨pipe, text, lease.expiresAt.utc⟩)

/-- What one step of an acquisition may do to a home. -/
structure AccessStep (first : ℕ) (h after : Home) : Prop where
  bindings : after.store.remotePipeBindings = h.store.remotePipeBindings
  pipes : after.store.pipes = h.store.pipes
  cache : ∀ pipe, CacheStep prim u env first h after pipe

variable {prim u env} {first : ℕ} {h after : Home}

theorem AccessStep.of_store (same : after.store = h.store) :
    AccessStep prim u env first h after := by
  refine ⟨?_, ?_, fun pipe => .kept ?_⟩ <;> rw [same]

/-- Reading the cache changes nothing, or deletes an expired row. -/
theorem getAccessLeaseCache_cases (s : Store) (remotePipeID : GoString) (now : Time) :
    (s.getAccessLeaseCache remotePipeID now).2 = s ∨
      ∃ row, s.exactLeaseCache.lookup remotePipeID = some row ∧
        (row.expiresAt.after now.utc = false ∨ row.expiresAt.isZero = true) ∧
        (s.getAccessLeaseCache remotePipeID now).2 =
          { s with exactLeaseCache := s.exactLeaseCache.erase remotePipeID } := by
  unfold Store.getAccessLeaseCache
  split
  · exact .inl rfl
  · grind

theorem getAccessLeaseCache_step (begun : first ≤ h.readings) (remotePipeID : GoString) :
    AccessStep prim u env first h (h.executeAccess env (.getAccessLeaseCache remotePipeID)).2 := by
  rcases getAccessLeaseCache_cases h.store remotePipeID (env.clock h.readings) with
    same | ⟨row, found, expired, deleted⟩
  · exact .of_store same
  · have isStore : (h.executeAccess env (.getAccessLeaseCache remotePipeID)).2.store =
        { h.store with exactLeaseCache := h.store.exactLeaseCache.erase remotePipeID } :=
      deleted
    refine ⟨by rw [isStore], by rw [isStore], fun pipe => ?_⟩
    by_cases same : pipe = remotePipeID
    · subst same
      refine .deleted row h.readings found ⟨begun, Nat.lt_succ_self _⟩ expired ?_
      rw [isStore]
      exact AList.lookup_erase _ _
    · refine .kept ?_
      rw [isStore]
      exact AList.lookup_erase_ne same

theorem putAccessLeaseCache_step {binding : RemotePipeBinding} {remotePipeID text : GoString}
    {lease : AccessLease} (bound : h.store.remotePipeBindings.lookup remotePipeID = some binding)
    (verified : VerifiedBetween prim u env binding remotePipeID lease first h.readings)
    (encoded : encodeLease prim lease = .ok text) :
    AccessStep prim u env first h (h.executeAccess env
      (.putAccessLeaseCache ⟨remotePipeID, text, lease.expiresAt.utc⟩)).2 := by
  show AccessStep prim u env first h (h.transact ((h.store.putAccessLeaseCache
    ⟨remotePipeID, text, lease.expiresAt.utc⟩).map ((), ·))).2
  cases put : h.store.putAccessLeaseCache ⟨remotePipeID, text, lease.expiresAt.utc⟩ with
  | error error => exact .of_store rfl
  | ok store =>
    simp only [Store.putAccessLeaseCache, bind_eq_ok] at put
    obtain ⟨-, -, same⟩ := put
    obtain rfl := Except.ok.inj same
    refine ⟨rfl, rfl, fun pipe => ?_⟩
    by_cases same : pipe = remotePipeID
    · subst same
      exact .replaced binding lease text bound verified encoded (AList.lookup_insert _)
    · exact .kept (AList.lookup_insert_ne same)

/-- The renewal client only reads a key file and talks to the authority. -/
theorem renewalClient_only (secrets : GoString) (request : RenewalRequest) :
    (renewalClient prim secrets request).Only fun c =>
      ∀ h, (executeAccess env c h).2 = h := by
  unfold renewalClient
  split
  · trivial
  · refine ⟨fun _ => rfl, ?_⟩
    rintro (error | key)
    · trivial
    · dsimp only
      split
      · trivial
      · exact ⟨fun _ => rfl, fun _ => trivial⟩

end Home

variable (prim : Primitives) (u : UseCases) (env : Surroundings)

/-- What an acquisition does, from a home on: every step is permitted, and the lease of a
success was verified. -/
structure TrustsVerified (first : ℕ) (remotePipeID : GoString)
    (program : HomeProgram AcceptedPipeAccess) (h : Home) : Prop where
  steps : program.Steps (Home.executeAccess env) (Home.AccessStep prim u env first) h
  verified : ∀ access, (program.run (Home.executeAccess env) h).1 = .ok access →
    ∃ binding, h.store.remotePipeBindings.lookup remotePipeID = some binding ∧
      access = accessThrough binding remotePipeID access.accessLease ∧
      Home.VerifiedBetween prim u env binding remotePipeID access.accessLease first
        (program.run (Home.executeAccess env) h).2.readings

variable {prim u env} {first : ℕ} {remotePipeID : GoString} {h : Home}

theorem TrustsVerified.failed (error : GoError) :
    TrustsVerified prim u env first remotePipeID (.done (.error error)) h :=
  ⟨trivial, by rintro access ⟨⟩⟩

variable {binding : RemotePipeBinding} {lease : AccessLease} {authorityPub : Bytes}

theorem TrustsVerified.succeeded
    (bound : h.store.remotePipeBindings.lookup remotePipeID = some binding)
    (verified : Home.VerifiedBetween prim u env binding remotePipeID lease first h.readings) :
    TrustsVerified prim u env first remotePipeID
      (.done (.ok (accessThrough binding remotePipeID lease))) h := by
  refine ⟨trivial, fun access same => ?_⟩
  obtain rfl := Except.ok.inj same
  exact ⟨binding, bound, rfl, verified⟩

/-- A step that is permitted and keeps the bindings. -/
theorem TrustsVerified.call {c : HomeCommand} {next : c.Response → HomeProgram AcceptedPipeAccess}
    (step : Home.AccessStep prim u env first h (h.executeAccess env c).2)
    (rest : TrustsVerified prim u env first remotePipeID
      (next (h.executeAccess env c).1) (h.executeAccess env c).2) :
    TrustsVerified prim u env first remotePipeID (.call c next) h := by
  refine ⟨⟨step, rest.steps⟩, fun access succeeded => ?_⟩
  obtain ⟨binding, bound, facts⟩ := rest.verified access succeeded
  rw [step.bindings] at bound
  exact ⟨binding, bound, facts⟩

/-- The renewal leaves the home as it is. -/
theorem TrustsVerified.renewal {secrets : GoString} {request : RenewalRequest}
    {next : Except GoError AccessLease → HomeProgram AcceptedPipeAccess}
    (rest : ∀ reply, TrustsVerified prim u env first remotePipeID (next reply) h) :
    TrustsVerified prim u env first remotePipeID
      ((renewalClient prim secrets request).bind next) h := by
  have only : (renewalClient prim secrets request).Only fun c =>
      ∀ h, (Home.executeAccess env c h).2 = h := Home.renewalClient_only secrets request
  have kept := only.run_state h
  have ran : ((renewalClient prim secrets request).bind next).run (Home.executeAccess env)
      h = _ := Program.run_bind (Home.executeAccess env) _ _ h
  have after := rest ((renewalClient prim secrets request).run (Home.executeAccess env) h).1
  have permitted : (renewalClient prim secrets request).Steps (Home.executeAccess env)
      (Home.AccessStep prim u env first) h :=
    (only.mono fun c same h => Home.AccessStep.of_store (congrArg Home.store (same h))).steps h
  refine ⟨permitted.bind ?_, ?_⟩
  · rw [kept]
    exact after.steps
  · rw [ran, kept]
    exact after.verified

theorem renewAccess_trusts (bound : h.store.remotePipeBindings.lookup remotePipeID = some binding)
    (parsed : publicFromString binding.authorityPublic = .ok authorityPub)
    (begun : first ≤ h.readings) :
    TrustsVerified prim u env first remotePipeID
      (renewAccess prim u binding authorityPub remotePipeID) h := by
  refine .call (.of_store rfl) ?_
  cases (h.executeAccess env (.acquire binding.locator)).1 with
  | error error => exact .failed _
  | ok reached =>
    refine .renewal ?_
    rintro (error | lease)
    · exact .failed _
    refine .call (.of_store rfl) ?_
    dsimp only [Home.executeAccess, Home.execute]
    cases verified : lease.verify prim authorityPub binding.recipientPublic remotePipeID
        (env.clock h.readings) u.clock with
    | error error => exact .failed _
    | ok checked =>
      have isVerified : Home.VerifiedBetween prim u env binding remotePipeID lease first
          (h.readings + 1) :=
        ⟨authorityPub, h.readings, parsed, begun, Nat.lt_succ_self _, verified⟩
      cases encoded : encodeLease prim lease with
      | error error => exact .failed _
      | ok text =>
        let verifiedHome : Home := { h with readings := h.readings + 1 }
        have step : Home.AccessStep prim u env first verifiedHome
            (verifiedHome.executeAccess env (.putAccessLeaseCache
              ⟨remotePipeID, text, lease.expiresAt.utc⟩)).2 :=
          Home.putAccessLeaseCache_step bound isVerified encoded
        refine .call step ?_
        cases (verifiedHome.executeAccess env (.putAccessLeaseCache
          ⟨remotePipeID, text, lease.expiresAt.utc⟩)).1 with
        | error error => exact .failed _
        | ok put => exact .succeeded (step.bindings ▸ bound) isVerified

/-- A cached lease is used only if it verifies. -/
theorem verify_of_usableCachedLease {now : Time} {cached : Except GoError AccessLeaseCache}
    (usable : usableCachedLease prim u binding authorityPub remotePipeID now cached = some lease) :
    lease.verify prim authorityPub binding.recipientPublic remotePipeID now u.clock = .ok () := by
  unfold usableCachedLease at usable
  split at usable
  · cases usable
  grind

/-- **Only what was verified is trusted.**  For every stored binding, cache, reply of the
renewal and clock: the lease of an answer verifies under the authority of the binding, for
its recipient and the Pipe, at a clock reading of the call.  No step of the call changes the
bindings or the Pipes, and a step changes the cache row of a Pipe only by deleting it when it
has expired or by replacing it with a lease that was verified so. -/
theorem acquire_trusts_verified (prim : Primitives) (u : UseCases) (env : Surroundings)
    (remotePipeID : GoString) (h : Home) :
    TrustsVerified prim u env h.readings remotePipeID
      (acquireAcceptedPipeAccess prim u remotePipeID) h := by
  unfold acquireAcceptedPipeAccess
  split
  · exact .failed _
  refine .call (.of_store rfl) ?_
  dsimp only [Home.executeAccess, Home.execute]
  cases found : h.store.getRemotePipeBinding remotePipeID with
  | error error => exact .failed _
  | ok binding =>
    have bound := (Store.getRemotePipeBinding_eq_ok found).1
    dsimp only
    cases binding.validate with
    | error error => exact .failed _
    | ok complete =>
      cases parsed : publicFromString binding.authorityPublic with
      | error error => exact .failed _
      | ok authorityPub =>
        refine .call (.of_store rfl) ?_
        have step : Home.AccessStep prim u env h.readings (h.executeAccess env .now).2
            ((h.executeAccess env .now).2.executeAccess env
              (.getAccessLeaseCache remotePipeID)).2 :=
          Home.getAccessLeaseCache_step (Nat.le_succ h.readings) remotePipeID
        refine .call step ?_
        have bound := step.bindings ▸ bound
        cases usable : usableCachedLease prim u binding authorityPub remotePipeID
            (h.executeAccess env .now).1
            ((h.executeAccess env .now).2.executeAccess env
              (.getAccessLeaseCache remotePipeID)).1 with
        | some lease =>
          have verified := verify_of_usableCachedLease usable
          exact .succeeded bound ⟨authorityPub, h.readings, parsed, le_rfl,
            Nat.lt_add_of_pos_right (by decide : 0 < 2), verified⟩
        | none =>
          exact renewAccess_trusts bound parsed (Nat.le_add_right h.readings 2)

end Tubo
