import Mathlib.Tactic.Ring
import Tubo.Concurrency.Executions
import Tubo.Store.SyncLease

/-!
# The owner of the periodic synchronisation

Package `internal/runtime`: a `SyncController` acquires the lease of its Scope and then
fetches its records again and again.  It renews the lease while it waits for the next
attempt and while an attempt runs, each time with an interval of its own, and not at the
switch between the two.

Time is discrete here: a wait takes exactly its time, a ticker ticks exactly at its
interval, an attempt takes any time up to its timeout, and nothing else takes time.  If two
things happen at one moment, `select` may notice either.  Nobody else touches the lease.

* `sync_owner_keeps_lease_iff` — the owner of an accepted configuration never loses its
  lease exactly if the lease outlives the longest time between two renewals by a second,
  and the cadence with its jitter is a `Duration`;
* `sync_owner_loses_lease` — a lease that has half a second left is not renewed: the texts
  of the two times are compared.
-/

namespace Tubo

open Concurrency

/-! ## Settings -/

/-- `ScopeSyncCadence`. -/
def scopeSyncCadence : Duration := minute

/-- `ScopeSyncLeaseTTL`. -/
def scopeSyncLeaseTTL : Duration := 45 * second

/-- `ScopeSyncRenewInterval`. -/
def scopeSyncRenewInterval : Duration := 10 * second

/-- `ScopeSyncAttemptTimeout`. -/
def scopeSyncAttemptTimeout : Duration := 20 * second

/-- `SyncController`; a duration of zero stands for the default. -/
structure SyncController where
  scope : GoString
  holderRef : GoString
  processIdentity : GoString
  cadence : Duration := 0
  leaseTTL : Duration := 0
  renewInterval : Duration := 0
  attemptTimeout : Duration := 0

/-- The durations that `settings` returns, in nanoseconds. -/
structure SyncSettings where
  cadence : ℤ
  ttl : ℤ
  renew : ℤ
  timeout : ℤ

/-- `settings`. -/
def SyncController.settings (c : SyncController) : Except GoError SyncSettings := do
  let cadence := if c.cadence = 0 then scopeSyncCadence else c.cadence
  let ttl := if c.leaseTTL = 0 then scopeSyncLeaseTTL else c.leaseTTL
  let renew := if c.renewInterval = 0 then scopeSyncRenewInterval else c.renewInterval
  let timeout := if c.attemptTimeout = 0 then scopeSyncAttemptTimeout else c.attemptTimeout
  failIf (cadence ≤ 0 ∨ ttl ≤ timeout ∨ renew ≤ 0 ∨ ttl ≤ renew ∨ timeout ≤ 0)
    (errorsNew "invalid scope sync controller bounds")
  failIf (c.scope = [] ∨ c.holderRef = [] ∨ c.processIdentity = [])
    (errorsNew "invalid scope sync controller identity")
  return ⟨cadence, ttl, renew, timeout⟩

/-- The sum of two durations, as an `int64`. -/
def durationSum (a b : ℤ) : ℤ := Int.bmod (a + b) (2 ^ 64)

/-- `boundedScopeSyncJitter`, from eight random bytes if they can be read. -/
def boundedScopeSyncJitter (limit : ℤ) (raw : Option UInt64) : ℤ :=
  if limit ≤ 0 then 0
  else
    match raw with
    | none => 0
    | some value => value.toNat % (limit + 1)

/-! ## The controller -/

/-- What `select` notices while an attempt runs: it has returned, perhaps because it has
lost the lease; the context of the controller, or of the attempt, is done; a tick. -/
inductive AttemptEvent
  | done (lost : Bool)
  | parentDone
  | timedOut
  | tick
  deriving DecidableEq

inductive SyncCommand
  | ctxErr
  | now
  | wait (delay : ℤ)
  | jitter (limit : ℤ)
  | acquire (scope holderRef processIdentity : GoString) (now : Time) (ttl : Duration)
  | scopeSyncLease (scope : GoString)
  | renew (lease : ScopeSyncLease) (now : Time) (ttl : Duration)
  | release (lease : ScopeSyncLease)
  | nextRetry (scope : GoString)
  | startAttempt (lease : ScopeSyncLease) (renew timeout : ℤ)
  | select
  | awaitDone

@[reducible]
def SyncCommand.Response : SyncCommand → Type
  | .ctxErr | .wait _ => Bool
  | .now => Time
  | .jitter _ => ℤ
  | .acquire .. => Except GoError (Option ScopeSyncLease)
  | .scopeSyncLease _ | .nextRetry _ => Option Time
  | .renew .. => Except GoError Bool
  | .release _ | .startAttempt .. | .awaitDone => Unit
  | .select => AttemptEvent

abbrev SyncProgram (α : Type) := Program SyncCommand SyncCommand.Response α

/-- The loop of `attempt`, for some number of ticks. -/
def attemptLoop (lease : ScopeSyncLease) (ttl : ℤ) : ℕ → SyncProgram (Option Bool)
  | 0 => .done none
  | ticks + 1 =>
    .call .select fun
      | .done lost => .done (some lost)
      | .parentDone => .call .awaitDone fun () => .done (some true)
      | .timedOut => .call .awaitDone fun () => .done (some false)
      | .tick =>
        .call .now fun now =>
          .call (.renew lease now ttl) fun
            | .ok true => attemptLoop lease ttl ticks
            | _ => .call .awaitDone fun () => .done (some true)

/-- When the next attempt is due, if there is a hint when to retry. -/
def dueAfter (fallback : Time) : Option Time → Time
  | some retry => if retry.after fallback then retry else fallback
  | none => fallback

/-- `nextDue`. -/
def nextDue (scope : GoString) (fallback : Time) : SyncProgram Time :=
  .call (.nextRetry scope) fun retry => .done (dueAfter fallback retry)

/-- `runOwner`, for some number of rounds.  Whether it owns the lease at the end is not
known if the rounds or the ticks of an attempt run out. -/
def runOwner (s : SyncSettings) (lease : ScopeSyncLease) (ticks : ℕ) :
    ℕ → Time → SyncProgram (Option Bool)
  | 0, _ => .done none
  | rounds + 1, due =>
    .call .ctxErr fun cancelled =>
      if cancelled then .done (some false)
      else
        .call .now fun now =>
          if due.after now = false then
            .call (.startAttempt lease s.renew s.timeout) fun () =>
              (attemptLoop lease s.ttl ticks).bind fun
                | none => .done none
                | some true => .done (some false)
                | some false =>
                  .call .now fun now =>
                    .call (.jitter (s.cadence / 10)) fun jitter =>
                      (nextDue lease.scope (now.add (durationSum s.cadence jitter))).bind
                        fun due => runOwner s lease ticks rounds due
          else
            let delay : ℤ := due.sub now
            .call (.wait (if s.renew < delay then s.renew else delay)) fun waited =>
              if waited then
                .call .now fun now =>
                  if due.after now then
                    .call .now fun now =>
                      .call (.renew lease now s.ttl) fun
                        | .ok true => runOwner s lease ticks rounds due
                        | _ => .done (some false)
                  else runOwner s lease ticks rounds due
              else .done (some false)

/-- Wait with some jitter before the next attempt to acquire the lease. -/
def pause (s : SyncSettings) (delay : ℤ) (after : SyncProgram Unit) : SyncProgram Unit :=
  .call (.jitter (s.renew / 4)) fun jitter =>
    .call (.wait (durationSum delay jitter)) fun waited => if waited then after else .done ()

/-- `Run` after `settings`, for some number of attempts to acquire the lease. -/
def SyncController.run (c : SyncController) (s : SyncSettings) (ticks rounds : ℕ) :
    ℕ → SyncProgram Unit
  | 0 => .done ()
  | tries + 1 =>
    .call .ctxErr fun cancelled =>
      if cancelled then .done ()
      else
        .call .now fun now =>
          .call (.acquire c.scope c.holderRef c.processIdentity now s.ttl) fun
            | .error _ => pause s s.renew (c.run s ticks rounds tries)
            | .ok none =>
              .call (.scopeSyncLease c.scope) fun
                | none => pause s s.renew (c.run s ticks rounds tries)
                | some expires =>
                  .call .now fun now =>
                    let remaining : ℤ := expires.sub now
                    pause s (if 0 < remaining ∧ remaining < s.renew then remaining
                      else s.renew) (c.run s ticks rounds tries)
            | .ok (some lease) =>
              .call .now fun due =>
                (runOwner s lease ticks rounds due).bind fun
                  | none => .done ()
                  | some owned =>
                    .call (.release lease) fun () =>
                      if owned then c.run s ticks rounds tries else .done ()

/-! ## Discrete time -/

/-- An attempt that runs: when it returns, when its context is done, and the next tick. -/
structure RunningAttempt where
  lease : ScopeSyncLease
  ends : ℤ
  deadline : ℤ
  nextTick : ℤ
  interval : ℤ
  lost : Bool := false

/-- The time, the tables, and the attempt that runs. -/
structure SyncWorld where
  clock : ℤ
  store : Discovery
  running : Option RunningAttempt := none

namespace SyncWorld

/-- What the clock shows. -/
def now (w : SyncWorld) : Time := ⟨w.clock, 0⟩

/-- The expiry of the lease of a Scope, if it is live: `ScopeSyncLease`. -/
def liveExpiry (w : SyncWorld) (scope : GoString) : Option Time :=
  if blank scope = true ∨ 255 < scope.length then none
  else ((w.store.scopeSyncLeases.lookup scope).map (·.expiresAt)).filter (·.after w.now)

/-- The tables after a statement. -/
def commit (w : SyncWorld) (c : DiscoveryCommand) : SyncWorld :=
  { w with store := Discovery.effect c w.store }

/-- An attempt that starts now. -/
def attempt (w : SyncWorld) (lease : ScopeSyncLease) (renew timeout duration : ℤ) :
    RunningAttempt where
  lease := lease
  ends := w.clock + duration
  deadline := w.clock + timeout
  nextTick := w.clock + renew
  interval := renew

/-- What `select` may notice, and when.  Meanwhile the attempt writes what it fetches; a
write that is fenced by the lease fails if the lease is not current at that time. -/
def Selects (w : SyncWorld) (a : RunningAttempt) (event : AttemptEvent) (w' : SyncWorld) : Prop :=
  w'.store.scopeSyncLeases = w.store.scopeSyncLeases ∧
  ∃ lost : Bool, (lost = true → a.lost = true ∨ ∃ t, w.clock ≤ t ∧ t ≤ w'.clock ∧
      w.store.leaseCurrentTx a.lease ⟨t, 0⟩ = .error errScopeSyncLeaseLost) ∧
    match event with
    | .done isLost =>
      a.ends ≤ a.deadline ∧ a.ends ≤ a.nextTick ∧ w'.clock = a.ends ∧
        w'.running = none ∧ isLost = lost
    | .parentDone =>
      w.clock ≤ w'.clock ∧ w'.clock ≤ a.ends ∧ w'.clock ≤ a.deadline ∧
        w'.clock ≤ a.nextTick ∧ w'.running = some { a with lost }
    | .timedOut =>
      a.deadline ≤ a.ends ∧ a.deadline ≤ a.nextTick ∧ w'.clock = a.deadline ∧
        w'.running = some { a with lost }
    | .tick =>
      a.nextTick ≤ a.ends ∧ a.nextTick ≤ a.deadline ∧ w'.clock = a.nextTick ∧
        w'.running = some { a with lost, nextTick := a.nextTick + a.interval }

/-- What a step may do.  Waits take their time unless the context is cancelled, and an
attempt takes any time up to its timeout. -/
def exec : (c : SyncCommand) → SyncWorld → c.Response → SyncWorld → Prop
  | .ctxErr, w, _, w' => w' = w
  | .now, w, now, w' => w' = w ∧ now = w.now
  | .wait delay, w, waited, w' =>
    ∃ passed : ℤ, w' = { w with clock := w.clock + passed } ∧ 0 ≤ passed ∧
      passed ≤ max 0 delay ∧ (waited = true → passed = max 0 delay)
  | .jitter limit, w, jitter, w' => w' = w ∧ ∃ raw, jitter = boundedScopeSyncJitter limit raw
  | .acquire scope holderRef processIdentity now ttl, w, result, w' =>
    ∃ random, (∀ bytes, random = .ok bytes → bytes.length = 32) ∧
      result = Discovery.outcome (.acquire scope holderRef processIdentity now ttl random) w.store ∧
      w' = w.commit (.acquire scope holderRef processIdentity now ttl random)
  | .scopeSyncLease scope, w, expires, w' => w' = w ∧ expires = w.liveExpiry scope
  | .renew lease now ttl, w, result, w' =>
    result = Discovery.outcome (.renew lease now ttl) w.store ∧ w' = w.commit (.renew lease now ttl)
  | .release lease, w, _, w' => w' = w.commit (.release lease)
  | .nextRetry _, w, _, w' => w' = w
  | .startAttempt lease renew timeout, w, _, w' =>
    ∃ duration : ℤ, 0 ≤ duration ∧ duration ≤ timeout ∧
      w' = { w with running := some (w.attempt lease renew timeout duration) }
  | .select, w, event, w' => ∃ a, w.running = some a ∧ w.Selects a event w'
  | .awaitDone, w, _, w' =>
    ∃ a, w.running = some a ∧ w' = { w with clock := max w.clock a.ends, running := none }

/-- The stored lease is the one given, and it has not expired. -/
def Live (w : SyncWorld) (lease : ScopeSyncLease) : Prop :=
  ∃ row, w.store.fencedRow lease = some row ∧ row.expiresAt.after w.now = true

/-- The clock shows a year up to 9999, and will for the time of a lease. -/
def InCalendar (ttl : ℤ) (w : SyncWorld) : Prop :=
  w.now.InRange ∧ (w.now.add ttl).InRange

end SyncWorld

abbrev SyncMoment := Moment SyncCommand SyncCommand.Response SyncWorld

/-- A renewal of a live lease succeeds. -/
def Renews (m : SyncMoment) : Prop :=
  match m with
  | ⟨.renew lease _ _, result, before, _⟩ => before.Live lease → result = .ok true
  | _ => True

/-- The lease is live at the start of an attempt and at a renewal, the renewal succeeds, and
the attempt does not find the lease lost. -/
def Kept (m : SyncMoment) : Prop :=
  match m with
  | ⟨.startAttempt lease _ _, _, before, _⟩ => before.Live lease
  | ⟨.renew lease _ _, result, before, _⟩ => before.Live lease ∧ result = .ok true
  | ⟨.select, event, _, _⟩ => event ≠ .done true
  | _ => True

/-! ## The lease of an owner -/

/-- Renewals are closer than attempts, three of them fit into a lease, and the cadence is an
`int64`. -/
structure SyncSettings.Paced (s : SyncSettings) : Prop where
  renew_pos : 0 < s.renew
  timeout_pos : 0 < s.timeout
  renew_lt : s.renew < s.cadence
  thrice : 3 * s.renew < s.ttl
  int64 : s.cadence < 2 ^ 63

/-- The longest time between two renewals: a wait before an attempt, the attempt unless it
ticks, and a wait after it. -/
def SyncSettings.longest (s : SyncSettings) : ℤ :=
  2 * s.renew + min s.renew s.timeout

/-- The lease is one that can be renewed. -/
def Owned (s : SyncSettings) (lease : ScopeSyncLease) : Prop :=
  Discovery.validLeaseFence lease = true ∧
    Discovery.validScopeSyncLeaseInput lease.scope lease.holderRef lease.processIdentity
      s.ttl = .ok ()

/-- The lease is stored, and it was renewed for the last time at the time given. -/
structure Held (s : SyncSettings) (lease : ScopeSyncLease) (renewed : ℤ) (w : SyncWorld) :
    Prop where
  stored : ∃ row, w.store.fencedRow lease = some row ∧ row.expiresAt.instant = renewed + s.ttl
  since : renewed ≤ w.clock

section Lease

variable {s : SyncSettings} {lease : ScopeSyncLease} {renewed : ℤ} {w w' : SyncWorld}

theorem Held.live (held : Held s lease renewed w) (recent : w.clock < renewed + s.ttl) :
    w.Live lease := by
  obtain ⟨row, found, expires⟩ := held.stored
  refine ⟨row, found, (Time.after_iff _ _).mpr ?_⟩
  rw [expires]
  exact recent

/-- Only the leases of the tables matter. -/
theorem Held.later (held : Held s lease renewed w)
    (same : w'.store.scopeSyncLeases = w.store.scopeSyncLeases) (later : w.clock ≤ w'.clock) :
    Held s lease renewed w' := by
  obtain ⟨row, found, expires⟩ := held.stored
  refine ⟨⟨row, ?_, expires⟩, held.since.trans later⟩
  rw [Discovery.fencedRow, same]
  exact found

/-- A fenced write finds the lease current until it expires. -/
theorem Held.current (held : Held s lease renewed w) (owned : Owned s lease) {t : ℤ}
    (recent : t < renewed + s.ttl) : w.store.leaseCurrentTx lease ⟨t, 0⟩ = .ok () := by
  obtain ⟨row, found, expires⟩ := held.stored
  have isFence : failIf (Discovery.validLeaseFence lease = false) errScopeSyncLeaseLost =
      .ok () := failIf_of_not (by simp [owned.1])
  grind [Time.after_iff, ok_bind, failIf_of_not, Discovery.leaseCurrentTx]

/-- A renewal succeeds if the text of the expiry comes after that of the clock. -/
theorem Held.renew_iff (held : Held s lease renewed w) (owned : Owned s lease) :
    Discovery.outcome (.renew lease w.now s.ttl) w.store = .ok true ↔
      w.now.text < (⟨renewed + s.ttl, 0⟩ : Time).text := by
  obtain ⟨row, found, expires⟩ := held.stored
  have sameText : row.expiresAt.text = (⟨renewed + s.ttl, 0⟩ : Time).text :=
    Time.text_congr expires
  rw [Discovery.renew_done_iff owned.1 owned.2 found, sameText]

/-- A lease that was renewed now. -/
theorem held_of_renewed (done : Discovery.outcome (.renew lease w.now s.ttl) w.store = .ok true) :
    Held s lease w.clock (w.commit (.renew lease w.now s.ttl)) := by
  obtain ⟨after, committed⟩ := Discovery.outcome_eq_ok done
  have isAfter : (w.commit (.renew lease w.now s.ttl)).store = after :=
    Discovery.effect_of_ok committed
  rcases Discovery.renew_eq_ok committed with ⟨isFalse, -⟩ | ⟨row, -, found, -, rfl⟩
  · cases isFalse
  refine ⟨⟨{ row with renewedAt := w.now.utc, expiresAt := w.now.utc.add s.ttl }, ?_, rfl⟩,
    le_refl _⟩
  have fences := (Option.filter_eq_some_iff.mp found).2
  rw [isAfter, Discovery.fencedRow, Discovery.putLease, AList.lookup_insert,
    Option.filter_eq_some_iff]
  exact ⟨rfl, fences⟩

/-- A renewal succeeds if the lease has a second left. -/
theorem Held.renew_of_second (held : Held s lease renewed w) (owned : Owned s lease)
    (calendar : w.InCalendar s.ttl) (roomy : w.clock + second ≤ renewed + s.ttl) :
    Discovery.outcome (.renew lease w.now s.ttl) w.store = .ok true := by
  rw [held.renew_iff owned]
  obtain ⟨⟨low, high⟩, -, highEnd⟩ := calendar
  refine (Time.text_splits_of_second_lt ⟨low, high⟩ ⟨?_, ?_⟩ ?_).lt
  · change (0 : ℤ) ≤ renewed + s.ttl
    change (0 : ℤ) ≤ w.clock at low
    have positive : (0 : ℤ) < second := by decide
    omega
  · refine lt_of_le_of_lt ?_ highEnd
    have since := held.since
    change (renewed + s.ttl : ℤ) ≤ w.clock + s.ttl
    omega
  · change w.clock / second < (renewed + s.ttl) / second
    grind [second]

end Lease

/-! ## The owner keeps its lease -/

/-- The check of a moment. -/
def KeptInCalendar (s : SyncSettings) (m : SyncMoment) : Prop :=
  m.before.InCalendar s.ttl → Kept m

/-- An attempt runs, and the lease was renewed before it or at a tick. -/
structure Attempting (s : SyncSettings) (lease : ScopeSyncLease) (renewed : ℤ)
    (a : RunningAttempt) (w : SyncWorld) : Prop where
  running : w.running = some a
  held : Held s lease renewed w
  isLease : a.lease = lease
  interval : a.interval = s.renew
  unlost : a.lost = false
  present : w.clock ≤ a.ends
  ends : a.ends ≤ a.deadline
  before_tick : w.clock ≤ a.nextTick
  tick : a.nextTick ≤ renewed + 2 * s.renew
  last : min a.nextTick a.deadline ≤ renewed + s.renew + min s.renew s.timeout

/-- The lease after an attempt. -/
def Attempted (s : SyncSettings) (lease : ScopeSyncLease) (w : SyncWorld) : Prop :=
  ∃ renewed, Held s lease renewed w ∧ w.clock ≤ renewed + s.renew + min s.renew s.timeout

section Owner

variable {s : SyncSettings} {lease : ScopeSyncLease}

variable {renewed : ℤ} {w w' : SyncWorld} {a : RunningAttempt} {due : Time}

/-- An attempt that starts soon after a renewal. -/
theorem Held.attempting {duration : ℤ}
    (held : Held s lease renewed w) (soon : w.clock ≤ renewed + s.renew) (paced : s.Paced)
    (nonneg : 0 ≤ duration) (inTime : duration ≤ s.timeout) :
    Attempting s lease renewed (w.attempt lease s.renew s.timeout duration)
      { w with running := some (w.attempt lease s.renew s.timeout duration) } where
  running := rfl
  held := held.later rfl (le_refl _)
  isLease := rfl
  interval := rfl
  unlost := rfl
  present := by
    change w.clock ≤ w.clock + duration
    omega
  ends := by
    change w.clock + duration ≤ w.clock + s.timeout
    omega
  before_tick := by
    have renewPos := paced.renew_pos
    change w.clock ≤ w.clock + s.renew
    omega
  tick := by
    change w.clock + s.renew ≤ renewed + 2 * s.renew
    omega
  last := by
    change min (w.clock + s.renew) (w.clock + s.timeout) ≤ _
    omega

/-- An attempt that ends before its next tick, whatever `select` notices then. -/
theorem Attempting.attempted (attempting : Attempting s lease renewed a w)
    (same : w'.store.scopeSyncLeases = w.store.scopeSyncLeases)
    (present : w.clock ≤ w'.clock) (beforeTick : w'.clock ≤ a.nextTick)
    (beforeDeadline : w'.clock ≤ a.deadline) : Attempted s lease w' :=
  ⟨renewed, attempting.held.later same present,
    (le_min beforeTick beforeDeadline).trans attempting.last⟩

/-- No fenced write of an attempt comes after the end of the lease. -/
theorem Attempting.not_lost
    (attempting : Attempting s lease renewed a w) (paced : s.Paced) (owned : Owned s lease)
    (beforeTick : w'.clock ≤ a.nextTick) {lost : Bool}
    (isLost : lost = true → a.lost = true ∨ ∃ t, w.clock ≤ t ∧ t ≤ w'.clock ∧
      w.store.leaseCurrentTx a.lease ⟨t, 0⟩ = .error errScopeSyncLeaseLost) :
    lost = false := by
  rw [← Bool.not_eq_true]
  intro holds
  rcases isLost holds with already | ⟨t, -, le, notCurrent⟩
  · rw [attempting.unlost] at already
    cases already
  · have tick := attempting.tick
    have renewPos := paced.renew_pos
    have thrice := paced.thrice
    rw [attempting.isLease, attempting.held.current owned (by omega)] at notCurrent
    cases notCurrent

/-- An attempt after a tick and a renewal. -/
theorem Attempting.renew {lost : Bool}
    (attempting : Attempting s lease renewed a w) (paced : s.Paced)
    (beforeEnd : a.nextTick ≤ a.ends) (clock : w'.clock = a.nextTick)
    (running : w'.running = some { a with lost, nextTick := a.nextTick + a.interval })
    (notLost : lost = false)
    (done : Discovery.outcome (.renew lease w'.now s.ttl) w'.store = .ok true) :
    Attempting s lease w'.clock { a with lost, nextTick := a.nextTick + a.interval }
      (w'.commit (.renew lease w'.now s.ttl)) where
  running := running
  held := held_of_renewed done
  isLease := attempting.isLease
  interval := attempting.interval
  unlost := notLost
  present := clock.le.trans beforeEnd
  ends := attempting.ends
  before_tick := by
    have renewPos := paced.renew_pos
    change w'.clock ≤ a.nextTick + a.interval
    rw [attempting.interval]
    omega
  tick := by
    have renewPos := paced.renew_pos
    change a.nextTick + a.interval ≤ _
    rw [attempting.interval]
    omega
  last := by
    have renewPos := paced.renew_pos
    have timeoutPos := paced.timeout_pos
    grind [Attempting.interval]

theorem attemptLoop_meets (paced : s.Paced) (roomy : s.longest + second ≤ s.ttl)
    (owned : Owned s lease) (ticks : ℕ) (attempting : Attempting s lease renewed a w) :
    (attemptLoop lease s.ttl ticks).Meets SyncWorld.exec (KeptInCalendar s)
      (fun result w => result = some false → Attempted s lease w) w := by
  induction ticks generalizing renewed a w with
  | zero => rintro ⟨⟩
  | succ ticks ih =>
    rintro event w' ⟨a', running, same, lost, isLost, noticed⟩
    obtain rfl : a' = a := Option.some.inj (running.symm.trans attempting.running)
    cases event with
    | done wasLost =>
      obtain ⟨beforeDeadline, beforeTick, clock, -, rfl⟩ := noticed
      refine ⟨fun _ isDone => ?_, fun _ => ?_⟩
      · rw [attempting.not_lost paced owned (clock.le.trans beforeTick) isLost] at isDone
        cases isDone
      · exact attempting.attempted same (clock ▸ attempting.present)
          (clock.le.trans beforeTick) (clock.le.trans beforeDeadline)
    | parentDone =>
      refine ⟨fun _ => AttemptEvent.noConfusion, ?_⟩
      rintro ⟨⟩ w₂ -
      exact ⟨fun _ => trivial, nofun⟩
    | timedOut =>
      obtain ⟨beforeEnd, beforeTick, clock, running'⟩ := noticed
      refine ⟨fun _ => AttemptEvent.noConfusion, ?_⟩
      rintro ⟨⟩ w₂ ⟨a₂, running₂, rfl⟩
      refine ⟨fun _ => trivial, fun _ => ?_⟩
      obtain rfl := Option.some.inj (running₂.symm.trans running')
      have ends := attempting.ends
      have atEnd : max w'.clock a'.ends = a'.deadline := by omega
      exact attempting.attempted same (attempting.present.trans (le_max_right _ _))
        (atEnd.le.trans beforeTick) atEnd.le
    | tick =>
      obtain ⟨beforeEnd, beforeDeadline, clock, running'⟩ := noticed
      refine ⟨fun _ => AttemptEvent.noConfusion, ?_⟩
      rintro now w₂ ⟨rfl, rfl⟩
      refine ⟨fun _ => trivial, ?_⟩
      rintro result w₃ ⟨isResult, rfl⟩
      have held := attempting.held.later same (clock ▸ attempting.before_tick)
      have enough : w₂.clock + second ≤ renewed + s.ttl := by
        have tick := attempting.tick
        have isLongest : s.longest = 2 * s.renew + min s.renew s.timeout := rfl
        have renewPos := paced.renew_pos
        have timeoutPos := paced.timeout_pos
        omega
      refine ⟨fun calendar => ⟨held.live ?_, ?_⟩, ?_⟩
      · have positive : (0 : ℤ) < second := by decide
        omega
      · exact isResult.trans (held.renew_of_second owned calendar enough)
      cases result with
      | error error =>
        rintro ⟨⟩ w₄ -
        exact ⟨fun _ => trivial, nofun⟩
      | ok done =>
        cases done with
        | false =>
          rintro ⟨⟩ w₄ -
          exact ⟨fun _ => trivial, nofun⟩
        | true =>
          have notLost := attempting.not_lost paced owned clock.le isLost
          exact ih (attempting.renew paced beforeEnd clock running' notLost isResult.symm)

/-- The lease at the head of the loop: an attempt is due soon after a renewal; or the lease
was renewed now; or an attempt has ended, and the next one is due after a whole interval. -/
def Pacing (s : SyncSettings) (lease : ScopeSyncLease) (due : Time) (w : SyncWorld) : Prop :=
  ∃ renewed, Held s lease renewed w ∧ (due.instant ≤ w.clock ∧ w.clock ≤ renewed + s.renew ∨
      w.clock < due.instant ∧ w.clock = renewed ∨
      w.clock + s.renew < due.instant ∧ w.clock ≤ renewed + s.renew + min s.renew s.timeout)

theorem not_after_iff {t u : Time} : t.after u = false ↔ t.instant ≤ u.instant := by
  rw [← Bool.not_eq_true, Time.after_iff, Int.not_lt]

/-- How long the owner waits. -/
theorem wait_eq {now : Time} (paced : s.Paced) (before : now.instant < due.instant) :
    max 0 (if s.renew < due.sub now then s.renew else due.sub now) =
      min s.renew (due.instant - now.instant) := by
  have renewPos := paced.renew_pos
  have shorter := paced.renew_lt
  have int64 := paced.int64
  unfold Time.sub
  split <;> omega

/-- The jitter is never negative, and at most its limit. -/
theorem boundedScopeSyncJitter_bounds {limit : ℤ} (nonneg : 0 ≤ limit) (raw : Option UInt64) :
    0 ≤ boundedScopeSyncJitter limit raw ∧ boundedScopeSyncJitter limit raw ≤ limit := by
  unfold boundedScopeSyncJitter
  split
  · exact ⟨le_refl _, nonneg⟩
  · cases raw with
    | none => exact ⟨le_refl _, nonneg⟩
    | some value =>
      have positive : (0 : ℤ) < limit + 1 := by omega
      have below := Int.emod_lt_of_pos value.toNat positive
      exact ⟨Int.emod_nonneg _ (ne_of_gt positive), Int.lt_add_one_iff.mp below⟩

theorem durationSum_eq {a b : ℤ} (low : -2 ^ 63 ≤ a + b) (high : a + b < 2 ^ 63) :
    durationSum a b = a + b :=
  Int.bmod_eq_of_le (by omega) (by omega)

/-- The next attempt is due after a whole interval. -/
theorem Attempted.pacing {raw : Option UInt64}
    (attempted : Attempted s lease w) (paced : s.Paced) (fits : s.cadence + s.cadence / 10 < 2 ^ 63)
    (isDue : w.clock + durationSum s.cadence (boundedScopeSyncJitter (s.cadence / 10) raw) ≤
      due.instant) : Pacing s lease due w := by
  obtain ⟨renewed, held, soon⟩ := attempted
  refine ⟨renewed, held, .inr (.inr ⟨?_, soon⟩)⟩
  have shorter := paced.renew_lt
  have renewPos := paced.renew_pos
  obtain ⟨nonneg, le⟩ := boundedScopeSyncJitter_bounds (show 0 ≤ s.cadence / 10 by omega) raw
  rw [durationSum_eq (by omega) (by omega)] at isDue
  omega

theorem le_dueAfter (fallback : Time) (retry : Option Time) :
    fallback.instant ≤ (dueAfter fallback retry).instant := by
  cases retry with
  | none => exact le_refl _
  | some retry =>
    grind [Time.after_iff, dueAfter]

theorem nextDue_meets {post : Option Bool → SyncWorld → Prop} {scope : GoString}
    {fallback : Time} {after : Time → SyncProgram (Option Bool)}
    (rest : ∀ due : Time, fallback.instant ≤ due.instant →
      (after due).Meets SyncWorld.exec (KeptInCalendar s) post w) :
    ((nextDue scope fallback).bind after).Meets SyncWorld.exec (KeptInCalendar s) post w := by
  rintro retry w' rfl
  exact ⟨fun _ => trivial, rest _ (le_dueAfter fallback retry)⟩

theorem runOwner_meets (paced : s.Paced) (roomy : s.longest + second ≤ s.ttl)
    (fits : s.cadence + s.cadence / 10 < 2 ^ 63) (owned : Owned s lease)
    (ticks rounds : ℕ) (pacing : Pacing s lease due w) :
    (runOwner s lease ticks rounds due).Meets SyncWorld.exec (KeptInCalendar s)
      (fun result _ => result ≠ some true) w := by
  have isLongest : s.longest = 2 * s.renew + min s.renew s.timeout := rfl
  have renewPos := paced.renew_pos
  have thrice := paced.thrice
  have timeoutPos := paced.timeout_pos
  induction rounds generalizing due w with
  | zero => exact nofun
  | succ rounds ih =>
    rintro cancelled w rfl
    refine ⟨fun _ => trivial, ?_⟩
    cases cancelled with
    | true => exact nofun
    | false =>
    rintro now w ⟨rfl, rfl⟩
    refine ⟨fun _ => trivial, ?_⟩
    obtain ⟨renewed, held, cases⟩ := pacing
    dsimp only
    split
    · -- An attempt is due.
      rename_i isDue
      rw [not_after_iff] at isDue
      change due.instant ≤ w.clock at isDue
      have soon : w.clock ≤ renewed + s.renew := by omega
      rintro ⟨⟩ w ⟨duration, nonneg, inTime, rfl⟩
      refine ⟨fun _ => held.live (by omega), ?_⟩
      refine Program.meets_bind.mpr ((attemptLoop_meets paced roomy owned ticks
        (held.attempting soon paced nonneg inTime)).mono ?_)
      intro result w attempted
      cases result with
      | none => exact nofun
      | some lost =>
        cases lost with
        | true => exact nofun
        | false =>
          rintro now w ⟨rfl, rfl⟩
          refine ⟨fun _ => trivial, ?_⟩
          rintro jitter w ⟨rfl, raw, rfl⟩
          refine ⟨fun _ => trivial, nextDue_meets fun due isDue => ?_⟩
          exact ih ((attempted rfl).pacing paced fits isDue)
    · rename_i notDue
      rw [Bool.not_eq_false, Time.after_iff] at notDue
      rintro waited w ⟨passed, rfl, nonneg, -, waits⟩
      refine ⟨fun _ => trivial, ?_⟩
      cases waited with
      | false => exact nofun
      | true =>
      have isPassed : passed = min s.renew (due.instant - w.clock) :=
        (waits rfl).trans (wait_eq paced notDue)
      have later : Held s lease renewed { w with clock := w.clock + passed } :=
        held.later rfl (Int.le_add_of_nonneg_right nonneg)
      rintro now w₂ ⟨rfl, rfl⟩
      refine ⟨fun _ => trivial, ?_⟩
      dsimp only
      split
      · -- The lease is renewed.
        rename_i stillBefore
        rw [Time.after_iff] at stillBefore
        rintro now w₃ ⟨rfl, rfl⟩
        refine ⟨fun _ => trivial, ?_⟩
        rintro result w₄ ⟨isResult, rfl⟩
        have enough : w.clock + passed + second ≤ renewed + s.ttl := by omega
        refine ⟨fun calendar => ⟨later.live ?_, ?_⟩, ?_⟩
        · grind
        · exact isResult.trans (later.renew_of_second owned calendar enough)
        cases result with
        | error error => exact nofun
        | ok done =>
          cases done with
          | false => exact nofun
          | true =>
            refine ih ⟨_, held_of_renewed isResult.symm, ?_⟩
            exact .inr (.inl ⟨stillBefore, rfl⟩)
      · -- The time of the next attempt has come.
        rename_i isDue
        rw [Bool.not_eq_true, not_after_iff] at isDue
        change due.instant ≤ w.clock + passed at isDue
        refine ih ⟨renewed, later, .inl ⟨isDue, ?_⟩⟩
        grind

end Owner

/-! ## The controller keeps its lease -/

section Controller

variable {c : SyncController} {s : SyncSettings} {w : SyncWorld} {lease : ScopeSyncLease}

/-- The arguments of the controller are ones for which a lease is granted. -/
def Eligible (c : SyncController) (s : SyncSettings) : Prop :=
  Discovery.validScopeSyncLeaseInput c.scope c.holderRef c.processIdentity s.ttl = .ok ()

/-- A lease that was granted now. -/
theorem held_of_acquired {random : Except GoError Bytes}
    (size : ∀ bytes, random = .ok bytes → bytes.length = 32)
    (granted : Discovery.outcome (.acquire c.scope c.holderRef c.processIdentity w.now s.ttl
      random) w.store = .ok (some lease)) :
    Eligible c s ∧ Owned s lease ∧ Held s lease w.clock (w.commit (.acquire c.scope
      c.holderRef c.processIdentity w.now s.ttl random)) := by
  obtain ⟨after, committed⟩ := Discovery.outcome_eq_ok granted
  have isAfter : (w.commit (.acquire c.scope c.holderRef c.processIdentity w.now s.ttl
      random)).store = after := Discovery.effect_of_ok committed
  change w.store.acquireScopeSyncLease c.scope c.holderRef c.processIdentity w.now s.ttl
    random = _ at committed
  have eligible : Eligible c s := by
    obtain ⟨⟨⟩, valid, -⟩ := bind_eq_ok.mp committed
    exact valid
  obtain ⟨bytes, rfl, -, ⟨-, rfl, isLease⟩ | ⟨-, -, missing⟩⟩ :=
    Discovery.acquire_eq_ok committed
  · obtain rfl := Option.some.inj isLease
    refine ⟨eligible, ⟨?_, eligible⟩, ⟨(Discovery.askedLease c.scope c.holderRef
      c.processIdentity (rawURLEncode bytes) w.now s.ttl).row, ?_, rfl⟩, le_refl _⟩
    · have identity := eligible
      unfold Eligible Discovery.validScopeSyncLeaseInput at identity
      simp only [bind_eq_ok, failIf_eq_ok, not_or, Bool.not_eq_true] at identity
      grind [rawURLEncode_ne_nil, ne_nil_of_not_blank, Discovery.validLeaseFence,
        Discovery.askedLease]
    · have stored : (w.store.putLease c.scope (Discovery.askedLease c.scope c.holderRef
          c.processIdentity (rawURLEncode bytes) w.now s.ttl).row).scopeSyncLeases.lookup
            c.scope = some (Discovery.askedLease c.scope c.holderRef c.processIdentity
              (rawURLEncode bytes) w.now s.ttl).row := AList.lookup_insert _
      grind [Discovery.fencedRow, Discovery.fences, Discovery.askedLease, ScopeSyncLease.row]
  · cases missing

theorem pause_meets {check : SyncMoment → Prop} {delay : ℤ} {after : SyncProgram Unit}
    (jitters : ∀ limit response before after, check ⟨.jitter limit, response, before, after⟩)
    (waits : ∀ limit response before after, check ⟨.wait limit, response, before, after⟩)
    (rest : ∀ w, after.Meets SyncWorld.exec check (fun _ _ => True) w) :
    (pause s delay after).Meets SyncWorld.exec check (fun _ _ => True) w := by
  intro jitter w _
  refine ⟨jitters _ _ _ _, ?_⟩
  intro waited w _
  refine ⟨waits _ _ _ _, ?_⟩
  cases waited with
  | false => trivial
  | true => exact rest w

theorem SyncController.run_meets (paced : s.Paced)
    (condition : Eligible c s → s.longest + second ≤ s.ttl ∧
      s.cadence + s.cadence / 10 < 2 ^ 63) (ticks rounds tries : ℕ) :
    (c.run s ticks rounds tries).Meets SyncWorld.exec (KeptInCalendar s) (fun _ _ => True) w := by
  induction tries generalizing w with
  | zero => trivial
  | succ tries ih =>
    rintro cancelled w rfl
    refine ⟨fun _ => trivial, ?_⟩
    cases cancelled with
    | true => trivial
    | false =>
    rintro now w ⟨rfl, rfl⟩
    refine ⟨fun _ => trivial, ?_⟩
    rintro result w₂ ⟨random, size, isResult, rfl⟩
    refine ⟨fun _ => trivial, ?_⟩
    have paused {delay : ℤ} {w : SyncWorld} :
        (pause s delay (c.run s ticks rounds tries)).Meets SyncWorld.exec
          (KeptInCalendar s) (fun _ _ => True) w :=
      pause_meets (fun _ _ _ _ _ => trivial) (fun _ _ _ _ _ => trivial) fun _ => ih
    cases result with
    | error error => exact paused
    | ok granted =>
    cases granted with
    | none =>
      intro expires w _
      refine ⟨fun _ => trivial, ?_⟩
      cases expires with
      | none => exact paused
      | some expires =>
        intro now w _
        exact ⟨fun _ => trivial, paused⟩
    | some lease =>
      obtain ⟨eligible, owned, held⟩ := held_of_acquired size isResult.symm
      obtain ⟨roomy, fits⟩ := condition eligible
      rintro due w₃ ⟨rfl, rfl⟩
      refine ⟨fun _ => trivial, Program.meets_bind.mpr ?_⟩
      have pacing : Pacing s lease w.now _ := ⟨_, held, .inl ⟨le_refl _, ?_⟩⟩
      · refine (runOwner_meets paced roomy fits owned ticks rounds pacing).mono ?_
        intro result w notOwned
        cases result with
        | none => trivial
        | some owned =>
          rintro ⟨⟩ w -
          refine ⟨fun _ => trivial, ?_⟩
          cases owned with
          | false => trivial
          | true => exact absurd rfl notOwned
      · have renewPos := paced.renew_pos
        change w.clock ≤ w.clock + s.renew
        omega

end Controller

/-! ## Runs that lose the lease -/

section Loses

variable {c : SyncController} {s : SyncSettings} {lease : ScopeSyncLease}
  {check : SyncMoment → Prop} {ticks rounds : ℕ} {due : Time} {renewed : ℤ} {w : SyncWorld}

/-- The owner is followed from here on. -/
abbrev Owns (check : SyncMoment → Prop) (s : SyncSettings) (lease : ScopeSyncLease)
    (ticks rounds : ℕ) (due : Time) (w : SyncWorld) : Prop :=
  (runOwner s lease ticks rounds due).Meets SyncWorld.exec check (fun _ _ => True) w

/-- The lease of an empty store is granted. -/
theorem SyncController.run_owns (eligible : Eligible c s) (clock : ℤ)
    (meets : (c.run s ticks rounds 1).Meets SyncWorld.exec check (fun _ _ => True)
      ⟨clock, {}, none⟩) :
    ∃ lease w, Owned s lease ∧ Held s lease clock w ∧ w.clock = clock ∧
      Owns check s lease ticks rounds w.now w := by
  let start : SyncWorld := ⟨clock, {}, none⟩
  let bytes : Bytes := List.replicate 32 0
  have unique : ({} : Discovery).tokenTaken c.scope (rawURLEncode bytes) = false := rfl
  have expired : ({} : Discovery).Expired c.scope start.now := by rintro row ⟨⟩
  obtain ⟨lease, granted⟩ := (Discovery.acquire_granted_iff eligible unique).mpr expired
  have size : ∀ random, (.ok bytes : Except GoError Bytes) = .ok random → random.length = 32 := by
    rintro random ⟨⟩
    rfl
  obtain ⟨-, owned, held⟩ := held_of_acquired (w := start) size granted
  obtain ⟨-, meets⟩ := meets false start rfl
  obtain ⟨-, meets⟩ := meets start.now start ⟨rfl, rfl⟩
  obtain ⟨-, meets⟩ := meets (.ok (some lease)) _ ⟨.ok bytes, size, granted.symm, rfl⟩
  obtain ⟨-, meets⟩ := meets _ _ ⟨rfl, rfl⟩
  exact ⟨lease, _, owned, held, rfl, (Program.meets_bind.mp meets).mono fun _ _ _ => trivial⟩

/-- An attempt that ends before its first tick, or at that moment. -/
theorem Owns.attempt (owns : Owns check s lease (ticks + 1) (rounds + 1) due w)
    (isDue : due.instant ≤ w.clock) {duration : ℤ} (nonneg : 0 ≤ duration)
    (beforeTick : duration ≤ s.renew) (inTime : duration ≤ s.timeout) (raw : Option UInt64)
    (retry : Option Time) :
    check ⟨.startAttempt lease s.renew s.timeout, (), w,
        { w with running := some (w.attempt lease s.renew s.timeout duration) }⟩ ∧
      Owns check s lease (ticks + 1) rounds (dueAfter (⟨w.clock + duration + durationSum s.cadence
          (boundedScopeSyncJitter (s.cadence / 10) raw), 0⟩ : Time) retry)
        ⟨w.clock + duration, w.store, none⟩ := by
  obtain ⟨-, owns⟩ := owns false w rfl
  obtain ⟨-, owns⟩ := owns w.now w ⟨rfl, rfl⟩
  dsimp only at owns
  rw [if_pos (not_after_iff.mpr isDue)] at owns
  obtain ⟨started, owns⟩ := owns () _ ⟨duration, nonneg, inTime, rfl⟩
  refine ⟨started, ?_⟩
  obtain ⟨-, owns⟩ := owns (.done false) ⟨w.clock + duration, w.store, none⟩
    ⟨w.attempt lease s.renew s.timeout duration, rfl, rfl, false, nofun,
      Int.add_le_add_left inTime _, Int.add_le_add_left beforeTick _, rfl, rfl, rfl⟩
  obtain ⟨-, owns⟩ := owns _ _ ⟨rfl, rfl⟩
  obtain ⟨-, owns⟩ := owns _ _ ⟨rfl, raw, rfl⟩
  obtain ⟨-, owns⟩ := owns retry _ rfl
  exact owns

section

variable (paced : s.Paced) (owns : Owns check s lease ticks (rounds + 1) due w)

include paced owns

/-- A wait. -/
theorem Owns.wait (before : w.clock < due.instant) {w' : SyncWorld}
    (isWorld : w' = { w with clock := w.clock + min s.renew (due.instant - w.clock) }) :
    (if due.after w'.now then
      .call .now fun now =>
        .call (.renew lease now s.ttl) fun
          | .ok true => runOwner s lease ticks rounds due
          | _ => .done (some false)
    else runOwner s lease ticks rounds due : SyncProgram (Option Bool)).Meets SyncWorld.exec
      check (fun _ _ => True) w' := by
  have isPassed := wait_eq paced (show w.now.instant < due.instant from before)
  obtain ⟨-, owns⟩ := owns false w rfl
  obtain ⟨-, owns⟩ := owns w.now w ⟨rfl, rfl⟩
  dsimp only at owns
  rw [if_neg (fun isDue => before.not_ge (not_after_iff.mp isDue))] at owns
  obtain ⟨-, owns⟩ := owns true w' ⟨min s.renew (due.instant - w.clock), isWorld,
    (by omega), isPassed.ge, fun _ => isPassed.symm⟩
  obtain ⟨-, owns⟩ := owns w'.now w' ⟨rfl, rfl⟩
  exact owns

/-- A wait of a whole interval, and a renewal. -/
theorem Owns.renew (before : w.clock + s.renew < due.instant) {w' : SyncWorld}
    (isWorld : w' = { w with clock := w.clock + s.renew }) :
    check ⟨.renew lease w'.now s.ttl, Discovery.outcome (.renew lease w'.now s.ttl) w'.store, w',
        w'.commit (.renew lease w'.now s.ttl)⟩ ∧
      (Discovery.outcome (.renew lease w'.now s.ttl) w'.store = .ok true →
        Owns check s lease ticks rounds due (w'.commit (.renew lease w'.now s.ttl))) := by
  have renewPos := paced.renew_pos
  have whole : min s.renew (due.instant - w.clock) = s.renew := by omega
  have owns := owns.wait paced (by omega) (whole.symm ▸ isWorld)
  have stillBefore : due.after w'.now = true := by
    rw [Time.after_iff, isWorld]
    exact before
  rw [if_pos stillBefore] at owns
  obtain ⟨-, owns⟩ := owns w'.now w' ⟨rfl, rfl⟩
  obtain ⟨checked, owns⟩ := owns _ _ ⟨rfl, rfl⟩
  grind

/-- A wait for the next attempt. -/
theorem Owns.wait_until_due
    (before : w.clock < due.instant) (soon : due.instant ≤ w.clock + s.renew) :
    Owns check s lease ticks rounds due { w with clock := due.instant } := by
  have rest : w.clock + min s.renew (due.instant - w.clock) = due.instant := by omega
  have owns := owns.wait paced before rfl
  rw [rest] at owns
  rw [if_neg] at owns
  · exact owns
  · rw [Bool.not_eq_true, not_after_iff]
    exact le_refl _

end

/-- The checks of renewals in the calendar. -/
def RenewsInCalendar (s : SyncSettings) (m : SyncMoment) : Prop :=
  m.before.InCalendar s.ttl → Renews m

/-- The clock shows a year up to 9999 long enough. -/
theorem inCalendar_of_bounds {ttl : ℤ} (start : 0 ≤ w.clock) (nonneg : 0 ≤ ttl)
    (bound : w.clock + ttl ≤ 2 * 10 ^ 20) : w.InCalendar ttl := by
  have limit : (2 * 10 ^ 20 : ℤ) < Time.yearTenThousand * 86400 * second := by decide
  refine ⟨⟨start, ?_⟩, ?_, ?_⟩
  · change w.clock < _
    omega
  · change 0 ≤ w.clock + ttl
    omega
  · change w.clock + ttl < _
    omega

/-- An owner that waits for several intervals. -/
theorem Owns.waits (paced : s.Paced) (count : ℕ)
    (owns : Owns (RenewsInCalendar s) s lease ticks (count + 1 + rounds) due w)
    (held : Held s lease w.clock w) (isDue : due.instant = w.clock + (count + 1) * s.renew)
    (start : 0 ≤ w.clock) (bound : due.instant + s.ttl ≤ 2 * 10 ^ 20) :
    ∃ w', Held s lease (due.instant - s.renew) w' ∧ w'.clock = due.instant ∧
      Owns (RenewsInCalendar s) s lease ticks rounds due w' := by
  have renewPos := paced.renew_pos
  have thrice := paced.thrice
  induction count generalizing w with
  | zero =>
    have isLast : due.instant = w.clock + s.renew := by simpa using isDue
    rw [show 0 + 1 + rounds = rounds + 1 by omega] at owns
    refine ⟨_, ?_, rfl, owns.wait_until_due paced (by omega) isLast.le⟩
    grind [Held.later]
  | succ count ih =>
    have more : due.instant = w.clock + s.renew + (count + 1) * s.renew := by
      rw [isDue]
      push_cast
      ring
    have positive : 0 < (count + 1) * s.renew := Int.mul_pos (by omega) renewPos
    rw [show count + 1 + 1 + rounds = count + 1 + rounds + 1 by omega] at owns
    have later : Held s lease w.clock { w with clock := w.clock + s.renew } :=
      held.later rfl (Int.le_add_of_nonneg_right renewPos.le)
    obtain ⟨renews, owns⟩ := owns.renew paced (by omega) rfl
    have done := renews (inCalendar_of_bounds (by change 0 ≤ w.clock + s.renew; omega) (by omega)
        (by change w.clock + s.renew + s.ttl ≤ _; omega))
      (later.live (by change w.clock + s.renew < _; omega))
    exact ih (owns done) (held_of_renewed done) more (by change 0 ≤ w.clock + s.renew; omega)

/-- A whole second comes last among the texts of its second. -/
theorem not_text_lt_of_whole {t u : Time} (rangeT : t.InRange) (rangeU : u.InRange)
    (whole : t.instant % second = 0) (less : t.instant < u.instant)
    (within : u.instant < t.instant + second) : ¬t.text < u.text := by
  have truncates : t.Truncates u := by
    refine ⟨less, 9, le_refl _, ?_⟩
    grind [second]
  rcases Time.text_splits_of_lt rangeT rangeU less with ⟨-, splits⟩ | ⟨notCut, -⟩
  · exact List.not_lt.mpr (List.le_of_lt splits.lt)
  · exact absurd truncates notCut

theorem boundedScopeSyncJitter_none (limit : ℤ) : boundedScopeSyncJitter limit none = 0 := by
  simp [boundedScopeSyncJitter]

theorem dueAfter_later {fallback retry : Time} (later : fallback.instant < retry.instant) :
    dueAfter fallback (some retry) = retry :=
  if_pos ((Time.after_iff _ _).mpr later)

/-- **The texts.**  If the lease outlives the longest time between two renewals by less than
a second, a live lease is refused: after a whole number of intervals comes an attempt that
ends when it ticks, and the next renewal falls on a whole second. -/
theorem not_renews_of_tight (paced : s.Paced) (eligible : Eligible c s)
    (short : s.ttl < s.longest + second) (lasts : s.ttl ≤ 300 * 10 ^ 9) :
    ¬∀ ticks rounds tries w, (c.run s ticks rounds tries).Meets SyncWorld.exec
      (RenewsInCalendar s) (fun _ _ => True) w := by
  intro all
  have renewPos := paced.renew_pos
  have timeoutPos := paced.timeout_pos
  have thrice := paced.thrice
  have int64 := paced.int64
  have shorter := paced.renew_lt
  have isLongest : s.longest = 2 * s.renew + min s.renew s.timeout := rfl
  -- The last wait ends in the second `10 ^ 11`.
  obtain ⟨count, isCount⟩ := Int.eq_ofNat_of_zero_le
    (Int.ediv_nonneg (show 0 ≤ s.cadence by omega) renewPos.le)
  have whole : s.cadence < (count + 1) * s.renew ∧ (count + 1) * s.renew ≤ s.cadence + s.renew := by
    have parts := Int.emod_add_mul_ediv s.cadence s.renew
    have low := Int.emod_nonneg s.cadence (ne_of_gt renewPos)
    have high := Int.emod_lt_of_pos s.cadence renewPos
    grind
  obtain ⟨clock, ends⟩ : ∃ clock : ℤ, clock + (count + 1) * s.renew +
      min s.renew s.timeout + s.renew = 10 ^ 20 :=
    ⟨10 ^ 20 - s.renew - min s.renew s.timeout - (count + 1) * s.renew, by ring⟩
  obtain ⟨lease, w, owned, held, rfl, owns₁⟩ :=
    SyncController.run_owns eligible clock (all (0 + 1) (count + 3 + 1) 1 _)
  have noJitter : durationSum s.cadence (boundedScopeSyncJitter (s.cadence / 10) none) =
      s.cadence := by
    rw [boundedScopeSyncJitter_none, durationSum_eq (by omega) (by omega), Int.add_zero]
  -- The first attempt takes no time, and the hint is a whole number of intervals away.
  obtain ⟨due, isDue⟩ : ∃ due : Time, due.instant = w.clock + (count + 1) * s.renew :=
    ⟨⟨_, 0⟩, rfl⟩
  have owns₂ := (owns₁.attempt (le_refl _) (le_refl 0) renewPos.le timeoutPos.le none (some due)).2
  rw [noJitter, Int.add_zero,
    dueAfter_later (show w.clock + s.cadence < due.instant by omega)] at owns₂
  have owns₂ : Owns (RenewsInCalendar s) s lease (0 + 1) (count + 1 + (1 + 1)) due
      ⟨w.clock, w.store, none⟩ := owns₂
  obtain ⟨w₃, held₃, isDue₃, owns₃⟩ := owns₂.waits paced count (held.later rfl (le_refl _))
    isDue (show 0 ≤ w.clock by omega) (by omega)
  -- The second attempt ends when it ticks.
  have owns₄ := (owns₃.attempt isDue₃.ge (le_min renewPos.le timeoutPos.le) (min_le_left _ _)
    (min_le_right _ _) none none).2
  rw [noJitter] at owns₄
  let w₅ : SyncWorld := ⟨w₃.clock + min s.renew s.timeout + s.renew, w₃.store, none⟩
  have isLast : w₅.clock = 10 ^ 20 := by
    grind
  have held₅ : Held s lease (due.instant - s.renew) w₅ := held₃.later rfl (by omega)
  have calendar : w₅.InCalendar s.ttl := inCalendar_of_bounds (by omega) (by omega) (by omega)
  obtain ⟨renews, -⟩ := owns₄.renew paced (Int.add_lt_add_left shorter _) (show w₅ = _ from rfl)
  have done := renews calendar (held₅.live (by omega))
  refine not_text_lt_of_whole calendar.1 ?_ ?_ ?_ ?_ ((held₅.renew_iff owned).mp done)
  · refine ⟨?_, lt_of_le_of_lt ?_ calendar.2.2⟩
    · change 0 ≤ due.instant - s.renew + s.ttl
      omega
    · change due.instant - s.renew + s.ttl ≤ w₅.clock + s.ttl
      omega
  · change w₅.clock % second = 0
    rw [isLast]
    rfl
  · change w₅.clock < due.instant - s.renew + s.ttl
    omega
  · change due.instant - s.renew + s.ttl < w₅.clock + second
    omega

theorem Held.lt_of_live (held : Held s lease renewed w) (live : w.Live lease) :
    w.clock < renewed + s.ttl := by
  obtain ⟨row, found, expires⟩ := held.stored
  obtain ⟨row', found', after⟩ := live
  obtain rfl := Option.some.inj (found.symm.trans found')
  rw [Time.after_iff, expires] at after
  exact after

/-- A sum that does not fit is negative. -/
theorem durationSum_neg {a b : ℤ} (low : 2 ^ 63 ≤ a + b) (high : a + b < 2 ^ 64) :
    durationSum a b < 0 := by
  simp only [durationSum, Int.bmod]
  split <;> omega

/-- The greatest jitter. -/
theorem boundedScopeSyncJitter_limit {limit : ℤ} (pos : 0 < limit) (bound : limit < 2 ^ 63) :
    boundedScopeSyncJitter limit (some (UInt64.ofNat limit.toNat)) = limit := by
  have isValue : ((UInt64.ofNat limit.toNat).toNat : ℤ) = limit := by
    rw [UInt64.toNat_ofNat']
    omega
  unfold boundedScopeSyncJitter
  rw [if_neg pos.not_ge]
  dsimp only
  rw [isValue]
  exact Int.emod_eq_of_lt pos.le (by omega)

/-- An owner whose next attempt is always due at once does not renew. -/
theorem Owns.hot (paced : s.Paced) (overflows : 2 ^ 63 ≤ s.cadence + s.cadence / 10)
    (owns : Owns (KeptInCalendar s) s lease (0 + 1) (rounds + 1) due w)
    (isDue : due.instant ≤ w.clock) (held : Held s lease renewed w) (start : 0 ≤ w.clock)
    (bound : w.clock + rounds * min s.renew s.timeout + s.ttl ≤ 2 * 10 ^ 20) :
    w.clock + rounds * min s.renew s.timeout < renewed + s.ttl := by
  have renewPos := paced.renew_pos
  have timeoutPos := paced.timeout_pos
  have thrice := paced.thrice
  have int64 := paced.int64
  induction rounds generalizing w due with
  | zero =>
    obtain ⟨started, -⟩ := owns.attempt isDue (le_refl 0) renewPos.le timeoutPos.le none none
    have live := started (inCalendar_of_bounds start (by omega) (by simpa using bound))
    simpa using held.lt_of_live live
  | succ rounds ih =>
    have more : w.clock + (rounds + 1 : ℕ) * min s.renew s.timeout =
        w.clock + min s.renew s.timeout + rounds * min s.renew s.timeout := by
      push_cast
      ring
    rw [more] at bound ⊢
    obtain ⟨-, owns⟩ := owns.attempt isDue (le_min renewPos.le timeoutPos.le)
      (min_le_left _ _) (min_le_right _ _)
      (some (UInt64.ofNat (s.cadence / 10).toNat)) none
    rw [boundedScopeSyncJitter_limit (by omega) (by omega)] at owns
    have negative := durationSum_neg overflows (by omega)
    refine ih owns ?_ (held.later rfl ?_) ?_ bound
    · change w.clock + min s.renew s.timeout + durationSum s.cadence (s.cadence / 10) ≤
        w.clock + min s.renew s.timeout
      omega
    · change w.clock ≤ w.clock + min s.renew s.timeout
      omega
    · change 0 ≤ w.clock + min s.renew s.timeout
      omega

/-- **The sum.**  If the cadence and its jitter do not fit, attempts follow each other until
the lease has expired. -/
theorem not_kept_of_overflow (paced : s.Paced) (eligible : Eligible c s)
    (overflows : 2 ^ 63 ≤ s.cadence + s.cadence / 10) (lasts : s.ttl ≤ 300 * 10 ^ 9) :
    ¬∀ ticks rounds tries w, (c.run s ticks rounds tries).Meets SyncWorld.exec
      (KeptInCalendar s) (fun _ _ => True) w := by
  intro all
  have renewPos := paced.renew_pos
  have timeoutPos := paced.timeout_pos
  have thrice := paced.thrice
  have positive : 0 < min s.renew s.timeout := lt_min renewPos timeoutPos
  obtain ⟨count, isCount⟩ := Int.eq_ofNat_of_zero_le
    (Int.ediv_nonneg (show 0 ≤ s.ttl by omega) positive.le)
  have parts := Int.emod_add_mul_ediv s.ttl (min s.renew s.timeout)
  have low := Int.emod_nonneg s.ttl (ne_of_gt positive)
  have high := Int.emod_lt_of_pos s.ttl positive
  rw [isCount] at parts
  have expand : ((count + 1 : ℕ) : ℤ) * min s.renew s.timeout =
      min s.renew s.timeout * count + min s.renew s.timeout := by
    push_cast
    ring
  obtain ⟨lease, w, owned, held, isClock, owns⟩ :=
    SyncController.run_owns eligible 0 (all (0 + 1) (count + 1 + 1) 1 _)
  have expired := owns.hot paced overflows (le_refl _) held (by omega) (by omega)
  omega

end Loses

/-! ## When an owner keeps its lease -/

theorem SyncController.settings_eq_ok {c : SyncController} {s : SyncSettings}
    (accepted : c.settings = .ok s) : 0 < s.renew ∧ 0 < s.timeout ∧ s.timeout < s.ttl := by
  unfold SyncController.settings at accepted
  simp only [bind_eq_ok, failIf_eq_ok, not_or, not_le] at accepted
  obtain ⟨⟨⟩, ⟨-, timeout, renew, -, positive⟩, -, -, isSettings⟩ := accepted
  cases isSettings
  exact ⟨renew, positive, timeout⟩

theorem Eligible.ttl_le {c : SyncController} {s : SyncSettings} (eligible : Eligible c s) :
    s.ttl ≤ 300 * 10 ^ 9 := by
  unfold Eligible Discovery.validScopeSyncLeaseInput at eligible
  simp only [bind_eq_ok, failIf_eq_ok, not_or, not_lt] at eligible
  obtain ⟨⟨⟩, -, -, lasts⟩ := eligible
  exact lasts

theorem Kept.renews {m : SyncMoment} (kept : Kept m) : Renews m := by
  obtain ⟨command, response, before, after⟩ := m
  cases command with
  | renew lease now ttl => exact fun _ => kept.2
  | _ => trivial

/-- **When an owner keeps its lease.**  Let the settings of a controller be accepted, with a
renewal interval below the cadence and three of them below the lease's time to live.  In
every execution, up to the year 9999, the lease is live at the start of every attempt and at
every renewal, every renewal succeeds and no attempt finds the lease lost — exactly if,
where the store grants such leases at all, the time to live exceeds the longest time between
two renewals by a second, and the cadence with its greatest jitter is an `int64`. -/
theorem sync_owner_keeps_lease_iff (c : SyncController) (s : SyncSettings)
    (accepted : c.settings = .ok s) (int64 : s.cadence < 2 ^ 63)
    (shorter : s.renew < s.cadence) (thrice : 3 * s.renew < s.ttl) :
    (∀ ticks rounds tries w moments result last,
      Execution SyncWorld.exec (c.run s ticks rounds tries) w moments result last →
      ∀ m ∈ moments, m.before.InCalendar s.ttl → Kept m) ↔
    (Eligible c s → s.longest + second ≤ s.ttl ∧ s.cadence + s.cadence / 10 < 2 ^ 63) := by
  obtain ⟨renewPos, timeoutPos, -⟩ := SyncController.settings_eq_ok accepted
  have paced : s.Paced := ⟨renewPos, timeoutPos, shorter, thrice, int64⟩
  constructor
  · intro all eligible
    have lasts := eligible.ttl_le
    constructor
    · by_contra tight
      refine not_renews_of_tight paced eligible (not_le.mp tight) lasts ?_
      intro ticks rounds tries w
      refine Program.meets_iff.mpr fun moments result last execution => ⟨?_, fun _ _ => trivial⟩
      exact fun m member calendar => (all _ _ _ _ _ _ _ execution m member calendar).renews
    · by_contra overflows
      refine not_kept_of_overflow paced eligible (not_lt.mp overflows) lasts ?_
      intro ticks rounds tries w
      exact Program.meets_iff.mpr fun moments result last execution =>
        ⟨all _ _ _ _ _ _ _ execution, fun _ _ => trivial⟩
  · intro condition ticks rounds tries w moments result last execution
    have meets : (c.run s ticks rounds tries).Meets SyncWorld.exec (KeptInCalendar s)
        (fun _ _ => True) w := SyncController.run_meets paced condition ticks rounds tries
    exact (Program.meets_iff.mp meets moments result last execution).1

namespace Sample

/-- A controller with the default settings. -/
def syncController : SyncController where
  scope := str "c/n"
  holderRef := str "pipe/p"
  processIdentity := str "7:Sun tubo"

def syncSettings : SyncSettings :=
  ⟨scopeSyncCadence, scopeSyncLeaseTTL, scopeSyncRenewInterval, scopeSyncAttemptTimeout⟩

/-- A controller whose leases live for thirty seconds and a half. -/
def tightController : SyncController :=
  { syncController with leaseTTL := 61 * 500000000 }

def tightSettings : SyncSettings := { syncSettings with ttl := 61 * 500000000 }

end Sample

/-- The default settings. -/
theorem sync_owner_keeps_lease_iff_default :
    Sample.syncController.settings = .ok Sample.syncSettings ∧
    ∀ ticks rounds tries w moments result last,
      Execution SyncWorld.exec (Sample.syncController.run Sample.syncSettings ticks rounds
        tries) w moments result last →
      ∀ m ∈ moments, m.before.InCalendar Sample.syncSettings.ttl → Kept m :=
  ⟨rfl, (sync_owner_keeps_lease_iff Sample.syncController Sample.syncSettings rfl (by decide)
    (by decide) (by decide)).mpr fun _ => ⟨by decide, by decide⟩⟩

/-- **A live lease is not renewed.**  With leases of thirty seconds and a half and the other
settings as they are by default, there is an execution in which a renewal is refused although
the lease is live. -/
theorem sync_owner_loses_lease :
    ∃ c s, SyncController.settings c = .ok s ∧ s.cadence < 2 ^ 63 ∧ s.renew < s.cadence ∧
      3 * s.renew < s.ttl ∧ ∃ ticks rounds tries w moments result last,
        Execution SyncWorld.exec (c.run s ticks rounds tries) w moments result last ∧
        ∃ m ∈ moments, m.before.InCalendar s.ttl ∧ ¬Renews m := by
  refine ⟨Sample.tightController, Sample.tightSettings, rfl, by decide, by decide, by decide, ?_⟩
  by_contra none
  have paced : Sample.tightSettings.Paced := ⟨by decide, by decide, by decide, by decide,
    by decide⟩
  have eligible : Eligible Sample.tightController Sample.tightSettings := by
    unfold Eligible
    decide
  refine not_renews_of_tight paced eligible (by decide) (by decide) ?_
  intro ticks rounds tries w
  refine Program.meets_iff.mpr fun moments result last execution => ⟨?_, fun _ _ => trivial⟩
  intro m member calendar
  grind

end Tubo
