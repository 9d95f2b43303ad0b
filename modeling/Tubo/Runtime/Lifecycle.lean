import Mathlib.Data.Finset.Card
import Tubo.Runtime.Growth
import Tubo.Runtime.Handler

/-!
# The invariant of a session

What the shared state of a session has to do with the roles of all goroutines in
it.  The invariant has five parts, and each of them is preserved by every access
that the protocol permits, whoever makes it:

* `Tokens` — there is one closer: a goroutine, or one that `requestStop` has
  created and that has not started;
* `Working` — the counter is the number of goroutines with admitted work, and
  `workDone` is closed once, when the session stops and the counter is zero;
* `Custody` — an installed carrier is held by the session, owed by the closer or
  terminated, exactly one of them;
* `Targeting` — the same for the target, and for the wait of the closer;
* `Pumping` — `completedCleanly` is set only if both directions ended cleanly.
-/

namespace Tubo

/-- How far the stop of a session has come. -/
inductive Progress
  | active
  | closing (resources : StopResources) (phase : StopPhase)
  | stopped
  deriving DecidableEq, Repr

/-- The closer has not yet come to the target. -/
def StopPhase.beforeTarget : StopPhase → Bool
  | .cancel | .load | .terminate _ => true
  | _ => false

/-- The closer has closed the target, if there is one. -/
def StopPhase.pastTarget : StopPhase → Bool
  | .work | .remove | .signal => true
  | _ => false

/-- The closer has waited for the admitted work. -/
def StopPhase.pastWork : StopPhase → Bool
  | .remove | .signal => true
  | _ => false

namespace Progress

/-- The carrier whose terminal action the closer still owes. -/
def owed : Progress → Option CarrierRef
  | .closing resources phase =>
    if phase.beforeTarget then resources.active else none
  | _ => none

/-- The target is closed, if there is one. -/
def pastTarget : Progress → Bool
  | .active => false
  | .closing _ phase => phase.pastTarget
  | .stopped => true

/-- All admitted work has been waited for. -/
def pastWork : Progress → Bool
  | .active => false
  | .closing _ phase => phase.pastWork
  | .stopped => true

/-- The closer comes to the next phase. -/
def advance (g : Progress) (phase : StopResources → StopPhase) : Progress :=
  match g with
  | .closing resources _ => .closing resources (phase resources)
  | other => other

/-- The progress after an access. -/
def next (g : Progress) : (c : SessionCommand) → c.Response → Progress
  | .beginStop, some resources => .closing resources .cancel
  | .cancel, _ => g.advance StopResources.afterCancel
  | .loadCompletedCleanly, clean => g.advance fun _ => .terminate clean
  | .terminate .., _ => g.advance StopResources.afterCarrier
  | .closeTarget, _ => g.advance fun _ => .work
  | .awaitWorkDone, _ => g.advance fun _ => .remove
  | .closeStopDone, _ => .stopped
  | _, _ => g

end Progress

/-! ## The five parts -/

/-- There is at most one closer, and it is where the session says. -/
structure Tokens (sp : SessionPump) (ρ : ℕ → Role) (g : Progress) : Prop where
  active : g = .active ↔ sp.stopping = false
  done : g = .stopped → sp.stopDone = 1
  undone : g ≠ .stopped → sp.stopDone = 0
  held : ∀ t resources phase, (ρ t).closing = some (resources, phase) →
    g = .closing resources phase ∧ sp.forked = none
  alone : ∀ t t', (ρ t).closing ≠ none → (ρ t').closing ≠ none → t = t'
  forked : ∀ resources, sp.forked = some resources →
    g = .closing resources .cancel ∧ ∀ t, (ρ t).closing = none
  seen : ∀ t, (ρ t).stopped = true → g = .stopped

/-- The counter is the number of goroutines with admitted work. -/
structure Working (sp : SessionPump) (ρ : ℕ → Role) : Prop where
  counted : ∃ workers : Finset ℕ, (∀ t, t ∈ workers ↔ (ρ t).working = true) ∧
    sp.workCount = workers.card
  closed : sp.workClosed = true ↔ sp.stopping = true ∧ sp.workCount = 0
  once : sp.workDone = if sp.workClosed then 1 else 0

/-- Where the carriers of a session are. -/
def SessionPump.carriers (sp : SessionPump) (g : Progress) : List CarrierRef :=
  sp.activeCarrier.toList ++ g.owed.toList ++ sp.terminals.map (·.1)

/-- The one installed carrier is somewhere, and only once. -/
structure Custody (sp : SessionPump) (ρ : ℕ → Role) (g : Progress) :
    Prop where
  owners : ∀ t t', (ρ t).owner ≠ .none → (ρ t').owner ≠ .none → t = t'
  taken : sp.stopping = true → sp.activeCarrier = none
  empty : (∀ t, (ρ t).owner.carrier? = none) → sp.carriers g = []
  one : ∀ t carrier, (ρ t).owner.carrier? = some carrier → sp.carriers g = [carrier]

/-- What the closer has done to the target, and waited for. -/
structure Targeting (sp : SessionPump) (g : Progress) : Prop where
  resources : ∀ held phase, g = .closing held phase → held.target = sp.target
  phase : ∀ held, g = .closing held .target → held.target = true
  closes : sp.targetCloses = if sp.target && g.pastTarget then 1 else 0
  waited : g.pastWork = true → 0 < sp.workDone

/-- The goroutines of the pump and their results. -/
structure Pumping (sp : SessionPump) (ρ : ℕ → Role) (g : Progress) :
    Prop where
  clean : sp.completedCleanly = true → ∀ d, sp.goroutines d = .ended true
  awaited : ∀ t carrier cleanA cleanB, (ρ t).owner = .awaited carrier cleanA cleanB →
    sp.goroutines .carrierToTarget = .ended cleanA ∧ sp.goroutines .targetToCarrier = .ended cleanB
  absent : ∀ t, (ρ t).owner = .created ∨ (∃ carrier, (ρ t).owner = .installed carrier) →
    ∀ d, sp.goroutines d = .absent
  running : ∀ t d result, (ρ t).direction = some (d, result) → sp.goroutines d = .running
  alone : ∀ t t' d result result', (ρ t).direction = some (d, result) →
    (ρ t').direction = some (d, result') → t = t'
  closing : ∀ resources, g = .closing resources (.terminate true) →
    ∀ d, sp.goroutines d = .ended true
  closed : ∀ carrier, (carrier, Terminal.close) ∈ sp.terminals → ∀ d, sp.goroutines d = .ended true

/-- The invariant of a session. -/
structure SessionInvariant (sp : SessionPump) (ρ : ℕ → Role) (g : Progress) :
    Prop where
  tokens : Tokens sp ρ g
  working : Working sp ρ
  custody : Custody sp ρ g
  targeting : Targeting sp g
  pumping : Pumping sp ρ g

/-! ## One goroutine changes its role -/

section Update

variable {α β : Type} {ρ : ℕ → α} {t : ℕ} {role : α}

/-- A part of the roles that the acting goroutine does not change. -/
theorem update_same (part : α → β) (same : part role = part (ρ t)) (t' : ℕ) :
    part (Function.update ρ t role t') = part (ρ t') := by
  grind

theorem update_cases (ρ : ℕ → α) (t : ℕ) (role : α) (t' : ℕ) :
    t' = t ∧ Function.update ρ t role t' = role ∨ t' ≠ t ∧ Function.update ρ t role t' = ρ t' := by
  grind

end Update

section Steps

variable {sp sp' : SessionPump} {ρ : ℕ → Role} {g : Progress} {t : ℕ}
  {role : Role}

/-! ### Tokens -/

theorem Tokens.frame (tokens : Tokens sp ρ g) (stopping : sp'.stopping = sp.stopping)
    (stopDone : sp'.stopDone = sp.stopDone) (forked : sp'.forked = sp.forked)
    (closing : role.closing = (ρ t).closing) (stopped : role.stopped = (ρ t).stopped) :
    Tokens sp' (Function.update ρ t role) g := by
  obtain ⟨isActive, isDone, undone, holds, alone, isForked, seen⟩ := tokens
  constructor <;> grind [Function.update_apply]

variable {resources : StopResources} {d : Direction}

/-- The closer comes to another phase. -/
theorem Tokens.advance (tokens : Tokens sp ρ g)
    {phase phase' : StopPhase} (held : (ρ t).closing = some (resources, phase))
    (stopping : sp'.stopping = sp.stopping)
    (stopDone : sp'.stopDone = sp.stopDone) (forked : sp'.forked = sp.forked)
    (closing : role.closing = some (resources, phase')) (stopped : role.stopped = (ρ t).stopped) :
    Tokens sp' (Function.update ρ t role) (.closing resources phase') := by
  obtain ⟨isActive, isDone, undone, holds, alone, isForked, seen⟩ := tokens
  constructor <;> grind [Function.update_apply]

/-- A goroutine becomes the closer. -/
theorem Tokens.begin (tokens : Tokens sp ρ g)
    (active : sp.stopping = false) (stopping : sp'.stopping = true)
    (stopDone : sp'.stopDone = sp.stopDone) (forked : sp'.forked = sp.forked)
    (closing : role.closing = some (resources, .cancel)) (stopped : role.stopped = (ρ t).stopped) :
    Tokens sp' (Function.update ρ t role) (.closing resources .cancel) := by
  obtain rfl := tokens.active.mpr active
  have nobody (t' : ℕ) : (ρ t').closing = none := by
    rw [Option.eq_none_iff_forall_ne_some]
    rintro ⟨held, phase⟩ isHeld
    cases (tokens.held t' held phase isHeld).1
  have notForked : sp.forked = none := by
    rw [Option.eq_none_iff_forall_ne_some]
    intro held pending
    cases (tokens.forked held pending).1
  obtain ⟨isActive, isDone, undone, holds, alone, isForked, seen⟩ := tokens
  constructor <;> grind [Function.update_apply]

/-- The closer creates a goroutine for the rest. -/
theorem Tokens.fork (tokens : Tokens sp ρ g)
    (held : (ρ t).closing = some (resources, .cancel)) (stopping : sp'.stopping = sp.stopping)
    (stopDone : sp'.stopDone = sp.stopDone)
    (forked : sp'.forked = some resources) (closing : role.closing = none)
    (stopped : role.stopped = (ρ t).stopped) : Tokens sp' (Function.update ρ t role) g := by
  obtain ⟨isActive, isDone, undone, holds, alone, isForked, seen⟩ := tokens
  constructor <;> grind [Function.update_apply]

/-- The created goroutine starts. -/
theorem Tokens.start (tokens : Tokens sp ρ g)
    (pending : sp.forked = some resources) (stopping : sp'.stopping = sp.stopping)
    (stopDone : sp'.stopDone = sp.stopDone) (forked : sp'.forked = none)
    (closing : role.closing = some (resources, .cancel)) (stopped : role.stopped = (ρ t).stopped) :
    Tokens sp' (Function.update ρ t role) g := by
  obtain ⟨isActive, isDone, undone, holds, alone, isForked, seen⟩ := tokens
  constructor <;> grind [Function.update_apply]

/-- The closer closes `stopDone`. -/
theorem Tokens.finish (tokens : Tokens sp ρ g)
    {phase : StopPhase} (held : (ρ t).closing = some (resources, phase))
    (stopping : sp'.stopping = sp.stopping) (stopDone : sp'.stopDone = sp.stopDone + 1)
    (forked : sp'.forked = sp.forked) (closing : role.closing = none) :
    Tokens sp' (Function.update ρ t role) .stopped := by
  obtain ⟨isActive, isDone, undone, holds, alone, isForked, seen⟩ := tokens
  constructor <;> grind [Function.update_apply]

/-- A goroutine sees the stop complete. -/
theorem Tokens.see (tokens : Tokens sp ρ g) (complete : 0 < sp.stopDone)
    (closing : role.closing = (ρ t).closing) : Tokens sp (Function.update ρ t role) g := by
  obtain ⟨isActive, isDone, undone, holds, alone, isForked, seen⟩ := tokens
  constructor <;> grind [Function.update_apply]

variable {done clean : Bool} {c : SessionCommand} {response : c.Response}

theorem Tokens.step (tokens : Tokens sp ρ g) (permits : (ρ t).permits c)
    (effect : c.effect done clean sp = some (response, sp')) :
    Tokens sp' (Function.update ρ t ((ρ t).next c response)) (g.next c response) := by
  cases c with
  | finishWork =>
    have same := sp.finishWork_eq
    obtain rfl : sp.finishWork.2 = sp' :=
      congrArg Prod.snd (Option.some.inj effect)
    rw [same]
    exact tokens.frame rfl rfl rfl rfl rfl
  | beginStop =>
    rcases sp.beginStop_cases with ⟨stops, refused⟩ | ⟨active, taken⟩
    · rw [SessionCommand.effect, refused] at effect
      cases effect
      exact tokens.frame rfl rfl rfl permits.symm rfl
    · rw [SessionCommand.effect, taken] at effect
      cases effect
      exact tokens.begin active rfl rfl rfl rfl rfl
  | go resources =>
    cases effect
    exact tokens.fork permits rfl rfl rfl rfl rfl
  | started =>
    simp only [SessionCommand.effect, Option.map_eq_some_iff] at effect
    obtain ⟨resources, pending, same⟩ := effect
    cases same
    exact tokens.start pending rfl rfl rfl rfl rfl
  | cancel | loadCompletedCleanly | closeTarget =>
    obtain ⟨resources, held⟩ := permits
    obtain ⟨rfl, -⟩ := tokens.held t _ _ held
    cases effect
    exact tokens.advance held rfl rfl rfl (by simp [Role.next, Role.advance, held]) rfl
  | terminate carrier action =>
    obtain ⟨resources, wasClean, held, -⟩ := permits
    obtain ⟨rfl, -⟩ := tokens.held t _ _ held
    cases effect
    exact tokens.advance held rfl rfl rfl (by simp [Role.next, Role.advance, held]) rfl
  | awaitWorkDone =>
    obtain ⟨resources, held⟩ := permits
    obtain ⟨rfl, -⟩ := tokens.held t _ _ held
    simp only [SessionCommand.effect] at effect
    split at effect <;> cases effect
    exact tokens.advance held rfl rfl rfl (by simp [Role.next, Role.advance, held]) rfl
  | closeStopDone =>
    obtain ⟨resources, held⟩ := permits
    cases effect
    exact tokens.finish held rfl rfl rfl rfl
  | awaitStopDone =>
    simp only [SessionCommand.effect] at effect
    split at effect <;> cases effect
    exact tokens.see ‹_› rfl
  | setActiveCarrier | admitWork | startDirection | awaitDirections =>
    simp only [SessionCommand.effect] at effect
    split at effect <;> cases effect <;>
      exact tokens.frame rfl rfl rfl rfl rfl
  | activeCarrier | launch | copy | endDirection | storeCompletedCleanly =>
    cases effect
    exact tokens.frame rfl rfl rfl rfl rfl

/-! ### Working -/

theorem Working.frame (working : Working sp ρ) (stopping : sp'.stopping = sp.stopping)
    (workCount : sp'.workCount = sp.workCount) (workClosed : sp'.workClosed = sp.workClosed)
    (workDone : sp'.workDone = sp.workDone) (same : role.working = (ρ t).working) :
    Working sp' (Function.update ρ t role) := by
  obtain ⟨⟨workers, member, count⟩, closed, once⟩ := working
  refine ⟨⟨workers, ?_, ?_⟩, ?_, ?_⟩ <;> grind [update_same Role.working same]

/-- The channel is closed when the session stops and its counter is zero. -/
theorem SessionPump.closeWorkDoneLocked_closes (sp : SessionPump)
    (notClosed : sp.workClosed = false) (once : sp.workDone = 0) :
    let closed := sp.closeWorkDoneLocked
    (closed.workClosed = true ↔ closed.stopping = true ∧ closed.workCount = 0) ∧
      closed.workDone = if closed.workClosed then 1 else 0 := by
  grind [SessionPump.closeWorkDoneLocked]

/-- While work remains, or the session has not stopped, the channel is open. -/
theorem Working.notClosed (working : Working sp ρ)
    (going : ¬(sp.stopping = true ∧ sp.workCount = 0)) :
    sp.workClosed = false ∧ sp.workDone = 0 := by
  grind [Working.closed, Working.once]

/-- A goroutine with admitted work is counted. -/
theorem Working.pos (working : Working sp ρ) (works : (ρ t).working = true) : 0 < sp.workCount := by
  grind [Working.counted]

theorem Working.admitted (working : Working sp ρ) (active : sp.stopping = false)
    (idle : (ρ t).working = false) (works : role.working = true) :
    Working { sp with workCount := sp.workCount + 1 } (Function.update ρ t role) := by
  obtain ⟨workers, member, count⟩ := working.counted
  have fresh : t ∉ workers := by simp [member, idle]
  obtain ⟨isOpen, undone⟩ := working.notClosed (by simp [active])
  refine ⟨⟨insert t workers, ?_, ?_⟩, ?_, ?_⟩
  · grind
  · rw [Finset.card_insert_of_notMem fresh]
    simp [count]
  · exact iff_of_false (by simp [isOpen]) (by simp [active])
  · exact working.once

theorem Working.finish (working : Working sp ρ) (works : (ρ t).working = true)
    (idle : role.working = false) :
    sp.finishWork.1 = true ∧ Working sp.finishWork.2 (Function.update ρ t role) := by
  have positive := working.pos works
  obtain ⟨isOpen, undone⟩ := working.notClosed (by omega)
  obtain ⟨workers, member, count⟩ := working.counted
  have returns : sp.finishWork =
      (true, { sp with workCount := sp.workCount - 1 }.closeWorkDoneLocked) := by
    unfold SessionPump.finishWork
    rw [if_neg (by dsimp only; omega)]
  rw [returns]
  obtain ⟨closed, once⟩ := SessionPump.closeWorkDoneLocked_closes
    { sp with workCount := sp.workCount - 1 } isOpen undone
  refine ⟨rfl, ⟨workers.erase t, ?_, ?_⟩, closed, once⟩
  · grind
  · grind [SessionPump.closeWorkDoneLocked_eq]

theorem Working.step (working : Working sp ρ) (permits : (ρ t).permits c)
    (effect : c.effect done clean sp = some (response, sp')) :
    Working sp' (Function.update ρ t ((ρ t).next c response)) := by
  cases c with
  | admitWork =>
    simp only [SessionCommand.effect] at effect
    split at effect
    · cases effect
      exact working.frame rfl rfl rfl rfl rfl
    · rename_i running
      cases effect
      rw [Bool.or_eq_true, not_or, Bool.not_eq_true] at running
      exact working.admitted running.1 permits rfl
  | finishWork =>
    obtain rfl : sp.finishWork.2 = sp' :=
      congrArg Prod.snd (Option.some.inj effect)
    exact (working.finish permits rfl).2
  | beginStop =>
    simp only [SessionCommand.effect, SessionPump.beginStop] at effect
    split at effect
    · cases effect
      exact working.frame rfl rfl rfl rfl rfl
    · rename_i active
      cases effect
      obtain ⟨isOpen, undone⟩ := working.notClosed (by simp [active])
      obtain ⟨closed, once⟩ := SessionPump.closeWorkDoneLocked_closes
        { sp with stopping := true, activeCarrier := none } isOpen undone
      obtain ⟨workers, member, count⟩ := working.counted
      refine ⟨⟨workers, ?_, ?_⟩, closed, once⟩
      · intro t'
        rw [update_same Role.working (by rfl), member]
      · rw [SessionPump.closeWorkDoneLocked_eq]
        exact count
  | started =>
    simp only [SessionCommand.effect, Option.map_eq_some_iff] at effect
    obtain ⟨resources, pending, same⟩ := effect
    cases same
    exact working.frame rfl rfl rfl rfl rfl
  | setActiveCarrier | awaitWorkDone | awaitStopDone | startDirection | awaitDirections =>
    simp only [SessionCommand.effect] at effect
    split at effect <;> cases effect <;>
      exact working.frame rfl rfl rfl rfl rfl
  | go | cancel | loadCompletedCleanly | terminate | closeTarget
  | closeStopDone | activeCarrier | launch | copy | endDirection
  | storeCompletedCleanly =>
    cases effect
    exact working.frame rfl rfl rfl rfl rfl

/-! ### Custody -/

variable {g' : Progress}

/-- Nobody gets another carrier, and the carriers are where they were. -/
theorem Custody.frame (custody : Custody sp ρ g)
    (stopping : sp'.stopping = true → sp'.activeCarrier = none)
    (carriers : sp'.carriers g' = sp.carriers g) (owner : role.owner ≠ .none → (ρ t).owner ≠ .none)
    (carrier : role.owner.carrier? = (ρ t).owner.carrier?) :
    Custody sp' (Function.update ρ t role) g' := by
  have sameCarrier := update_same (fun role : Role => role.owner.carrier?) carrier
  obtain ⟨owners, taken, empty, one⟩ := custody
  constructor <;> grind [Function.update_apply]

/-- The owner installs its carrier. -/
theorem Custody.install (custody : Custody sp ρ g) {carrier : CarrierRef}
    (active : sp.stopping = false) (owner : (ρ t).owner = .created)
    (installed : role.owner = .installed carrier) :
    Custody { sp with activeCarrier := some carrier } (Function.update ρ t role)
      g := by
  have onlyOwner (t' : ℕ) (other : t' ≠ t) : (ρ t').owner = .none := by
    by_contra owns
    exact other (custody.owners t' t owns (by simp [owner]))
  have empty : sp.carriers g = [] := by
    refine custody.empty fun t' => ?_
    by_cases same : t' = t
    · rw [same, owner]
      rfl
    · rw [onlyOwner t' same]
      rfl
  have nowhere : g.owed.toList = [] ∧ sp.terminals.map (·.1) = [] := by
    simp only [SessionPump.carriers, List.append_eq_nil_iff] at empty
    exact ⟨empty.1.2, empty.2⟩
  have one : SessionPump.carriers { sp with activeCarrier := some carrier } g = [carrier] := by
    simp [SessionPump.carriers, nowhere.1, List.map_eq_nil_iff.mp nowhere.2]
  have mine : Function.update ρ t role t = role := Function.update_self _ _ _
  constructor <;> grind [Function.update_apply, Ownership.carrier?]

/-- The carriers of a session whose fields and debts are the same. -/
theorem SessionPump.carriers_congr (active : sp'.activeCarrier = sp.activeCarrier)
    (terminals : sp'.terminals = sp.terminals) (owed : g'.owed = g.owed) :
    sp'.carriers g' = sp.carriers g := by
  rw [SessionPump.carriers, active, terminals, owed, SessionPump.carriers]

theorem Progress.owed_afterCancel (resources : StopResources) :
    (Progress.closing resources resources.afterCancel).owed =
      resources.active := by
  rcases resources with ⟨_ | carrier, _ | _⟩ <;> rfl

theorem Progress.owed_afterCarrier (resources : StopResources) :
    (Progress.closing resources resources.afterCarrier).owed = none := by
  rcases resources with ⟨active, _ | _⟩ <;> rfl

/-- An access that moves no carrier and changes no ownership. -/
theorem Custody.still (custody : Custody sp ρ g) (stopping : sp'.stopping = sp.stopping)
    (active : sp'.activeCarrier = sp.activeCarrier)
    (terminals : sp'.terminals = sp.terminals) (owed : g'.owed = g.owed)
    (owner : role.owner = (ρ t).owner) : Custody sp' (Function.update ρ t role) g' := by
  grind [Custody.frame, SessionPump.carriers_congr, Custody.taken]

theorem Custody.step (custody : Custody sp ρ g) (tokens : Tokens sp ρ g) (permits : (ρ t).permits c)
    (effect : c.effect done clean sp = some (response, sp')) :
    Custody sp' (Function.update ρ t ((ρ t).next c response)) (g.next c response) := by
  cases c with
  | setActiveCarrier carrier =>
    have owner : (ρ t).owner = .created := permits
    simp only [SessionCommand.effect] at effect
    split at effect
    · cases effect
      exact custody.frame custody.taken rfl (by simp [owner]) (by rw [owner]; rfl)
    · rename_i running
      cases effect
      rw [Bool.or_eq_true, not_or, Bool.not_eq_true] at running
      exact custody.install running.1 owner rfl
  | finishWork =>
    have same := sp.finishWork_eq
    obtain rfl : sp.finishWork.2 = sp' :=
      congrArg Prod.snd (Option.some.inj effect)
    rw [same]
    exact custody.still rfl rfl rfl rfl rfl
  | beginStop =>
    rcases sp.beginStop_cases with ⟨stops, refused⟩ | ⟨active, taken⟩
    · rw [SessionCommand.effect, refused] at effect
      cases effect
      exact custody.still rfl rfl rfl rfl rfl
    · rw [SessionCommand.effect, taken] at effect
      cases effect
      obtain rfl := tokens.active.mpr active
      -- What the session held is now owed by the closer.
      refine custody.frame (fun _ => rfl) ?_ id rfl
      simp [SessionPump.carriers, Progress.next, Progress.owed, StopPhase.beforeTarget]
  | started =>
    simp only [SessionCommand.effect, Option.map_eq_some_iff] at effect
    obtain ⟨resources, pending, same⟩ := effect
    cases same
    exact custody.still rfl rfl rfl rfl rfl
  | cancel =>
    obtain ⟨resources, held⟩ := permits
    obtain ⟨rfl, -⟩ := tokens.held t _ _ held
    cases effect
    exact custody.still rfl rfl rfl (Progress.owed_afterCancel resources) rfl
  | terminate carrier action =>
    obtain ⟨resources, wasClean, held, owes, -⟩ := permits
    obtain ⟨rfl, -⟩ := tokens.held t _ _ held
    cases effect
    have before : (Progress.closing resources (.terminate wasClean)).owed = some carrier := owes
    have after := Progress.owed_afterCarrier resources
    have none : sp.activeCarrier = none := by
      grind [Custody.taken, Tokens.active]
    -- The terminal action moves the one carrier, so nothing was terminated.
    have alone : sp.terminals = [] := by
      by_cases owned : ∃ t' held, (ρ t').owner.carrier? = some held
      · obtain ⟨t', held, owns⟩ := owned
        have one := custody.one t' held owns
        rw [SessionPump.carriers, before, none] at one
        simpa using (List.cons.inj one).2
      · have empty := custody.empty fun t' => by
          by_contra owns
          exact owned ⟨t', Option.ne_none_iff_exists'.mp owns⟩
        rw [SessionPump.carriers, before] at empty
        simp at empty
    refine custody.frame custody.taken ?_ id rfl
    simp only [SessionPump.carriers, Progress.next, Progress.advance, before, after, none, alone]
    rfl
  | loadCompletedCleanly | closeTarget | closeStopDone =>
    obtain ⟨resources, held⟩ := permits
    obtain ⟨rfl, -⟩ := tokens.held t _ _ held
    cases effect
    exact custody.still rfl rfl rfl rfl rfl
  | awaitWorkDone =>
    obtain ⟨resources, held⟩ := permits
    obtain ⟨rfl, -⟩ := tokens.held t _ _ held
    simp only [SessionCommand.effect] at effect
    split at effect <;> cases effect
    exact custody.still rfl rfl rfl rfl rfl
  | launch =>
    obtain ⟨carrier, owner⟩ := permits
    cases effect
    exact custody.frame custody.taken rfl (by simp [owner]) (Ownership.launch_carrier? _)
  | awaitDirections =>
    obtain ⟨carrier, owner⟩ := permits
    simp only [SessionCommand.effect] at effect
    split at effect <;> cases effect
    exact custody.frame custody.taken rfl (by simp [owner]) (Ownership.await_carrier? _ _ _)
  | storeCompletedCleanly result =>
    obtain ⟨carrier, cleanA, cleanB, owner, -⟩ := permits
    cases effect
    exact custody.frame custody.taken rfl (by simp [owner]) (Ownership.store_carrier? _)
  | admitWork | awaitStopDone | startDirection =>
    simp only [SessionCommand.effect] at effect
    split at effect <;> cases effect <;>
      exact custody.still rfl rfl rfl rfl rfl
  | go | activeCarrier | copy | endDirection =>
    cases effect
    exact custody.still rfl rfl rfl rfl rfl

/-! ### Targeting -/

theorem Targeting.frame (targeting : Targeting sp g) (target : sp'.target = sp.target)
    (targetCloses : sp'.targetCloses = sp.targetCloses)
    (workDone : 0 < sp.workDone → 0 < sp'.workDone)
    (resources : ∀ held phase, g' = .closing held phase → held.target = sp.target)
    (phase : ∀ held, g' = .closing held .target → held.target = true)
    (pastTarget : (sp.target && g'.pastTarget) = (sp.target && g.pastTarget))
    (pastWork : g'.pastWork = true → g.pastWork = true) : Targeting sp' g' := by
  refine ⟨?_, phase, ?_, ?_⟩
  · rw [target]
    exact resources
  · rw [target, targetCloses, pastTarget]
    exact targeting.closes
  · exact fun waited => workDone (targeting.waited (pastWork waited))

theorem Targeting.still (targeting : Targeting sp g) (target : sp'.target = sp.target)
    (targetCloses : sp'.targetCloses = sp.targetCloses)
    (workDone : 0 < sp.workDone → 0 < sp'.workDone) : Targeting sp' g :=
  targeting.frame target targetCloses workDone targeting.resources targeting.phase rfl id

theorem Targeting.step (targeting : Targeting sp g) (tokens : Tokens sp ρ g)
    (permits : (ρ t).permits c) (effect : c.effect done clean sp = some (response, sp')) :
    Targeting sp' (g.next c response) := by
  cases c with
  | setActiveCarrier | admitWork =>
    simp only [SessionCommand.effect] at effect
    split at effect <;> cases effect <;> exact targeting.still rfl rfl id
  | finishWork =>
    have grows := sp.grows_finishWork.workDone
    have same := sp.finishWork_eq
    obtain rfl : sp.finishWork.2 = sp' :=
      congrArg Prod.snd (Option.some.inj effect)
    refine targeting.still (by rw [same]) (by rw [same]) ?_
    exact fun closed => closed.trans_le grows
  | beginStop =>
    have grows := sp.grows_beginStop.workDone
    rcases sp.beginStop_cases with ⟨stops, refused⟩ | ⟨active, taken⟩
    · rw [SessionCommand.effect, refused] at effect
      cases effect
      exact targeting.still rfl rfl id
    · rw [SessionCommand.effect, taken] at effect
      cases effect
      obtain rfl := tokens.active.mpr active
      refine targeting.frame rfl rfl (fun closed => closed.trans_le grows) ?_ ?_ rfl (by rintro ⟨⟩)
      · rintro held phase ⟨rfl, -⟩
        rfl
      · rintro held ⟨⟩
  | started =>
    simp only [SessionCommand.effect, Option.map_eq_some_iff] at effect
    obtain ⟨resources, pending, same⟩ := effect
    cases same
    exact targeting.still rfl rfl id
  | cancel =>
    obtain ⟨held, isHeld⟩ := permits
    obtain ⟨rfl, -⟩ := tokens.held t _ _ isHeld
    have target := targeting.resources _ _ rfl
    cases effect
    refine targeting.frame rfl rfl id ?_ ?_ ?_ ?_
    · rintro _ _ ⟨⟩
      exact target
    · rcases held with ⟨_ | carrier, _ | _⟩ <;> rintro _ ⟨⟩
      rfl
    · rw [← target]
      rcases held with ⟨_ | carrier, _ | _⟩ <;> rfl
    · rcases held with ⟨_ | carrier, _ | _⟩ <;> exact id
  | loadCompletedCleanly =>
    obtain ⟨held, isHeld⟩ := permits
    obtain ⟨rfl, -⟩ := tokens.held t _ _ isHeld
    have target := targeting.resources _ _ rfl
    cases effect
    refine targeting.frame rfl rfl id ?_ ?_ rfl id
    · rintro _ _ ⟨⟩
      exact target
    · rintro _ ⟨⟩
  | terminate carrier action =>
    obtain ⟨held, wasClean, isHeld, -⟩ := permits
    obtain ⟨rfl, -⟩ := tokens.held t _ _ isHeld
    have target := targeting.resources _ _ rfl
    cases effect
    refine targeting.frame rfl rfl id ?_ ?_ ?_ ?_
    · rintro _ _ ⟨⟩
      exact target
    · rcases held with ⟨active, _ | _⟩ <;> rintro _ ⟨⟩
      rfl
    · rw [← target]
      rcases held with ⟨active, _ | _⟩ <;> rfl
    · rcases held with ⟨active, _ | _⟩ <;> exact id
  | closeTarget =>
    obtain ⟨held, isHeld⟩ := permits
    obtain ⟨rfl, -⟩ := tokens.held t _ _ isHeld
    have target := targeting.resources _ _ rfl
    have present : sp.target = true :=
      target.symm.trans (targeting.phase held rfl)
    have none : sp.targetCloses = 0 := by
      rw [targeting.closes, present]
      rfl
    cases effect
    refine ⟨?_, ?_, ?_, ?_⟩
    · rintro _ _ ⟨⟩
      exact target
    · rintro _ ⟨⟩
    · dsimp only
      rw [none, present]
      rfl
    · exact fun waited => targeting.waited waited
  | awaitWorkDone =>
    obtain ⟨held, isHeld⟩ := permits
    obtain ⟨rfl, -⟩ := tokens.held t _ _ isHeld
    have target := targeting.resources _ _ rfl
    simp only [SessionCommand.effect] at effect
    split at effect
    · rename_i finished
      cases effect
      refine ⟨?_, ?_, targeting.closes, fun _ => finished⟩
      · rintro _ _ ⟨⟩
        exact target
      · rintro _ ⟨⟩
    · cases effect
  | closeStopDone =>
    obtain ⟨held, isHeld⟩ := permits
    obtain ⟨rfl, -⟩ := tokens.held t _ _ isHeld
    cases effect
    exact ⟨by rintro _ _ ⟨⟩, by rintro _ ⟨⟩, targeting.closes, targeting.waited⟩
  | awaitStopDone | startDirection | awaitDirections =>
    simp only [SessionCommand.effect] at effect
    split at effect <;> cases effect
    exact targeting.still rfl rfl id
  | go | activeCarrier | launch | copy | endDirection
  | storeCompletedCleanly =>
    cases effect
    exact targeting.still rfl rfl id

/-! ### Pumping -/

section

variable (pumping : Pumping sp ρ g)

include pumping

/-- The goroutines of the pump go on as before. -/
theorem Pumping.frame (completed : sp'.completedCleanly = true →
      ∀ d, sp.goroutines d = .ended true)
    (goroutines : sp'.goroutines = sp.goroutines)
    (terminals : ∀ carrier, (carrier, Terminal.close) ∈ sp'.terminals →
      ∀ d, sp.goroutines d = .ended true)
    (awaited : ∀ carrier cleanA cleanB, role.owner = .awaited carrier cleanA cleanB →
      sp.goroutines .carrierToTarget = .ended cleanA ∧
        sp.goroutines .targetToCarrier = .ended cleanB)
    (absent : role.owner = .created ∨ (∃ carrier, role.owner = .installed carrier) →
      ∀ d, sp.goroutines d = .absent)
    (direction : ∀ d result, role.direction = some (d, result) →
      ∃ before, (ρ t).direction = some (d, before))
    (closing : ∀ resources, g' = .closing resources (.terminate true) →
      ∀ d, sp.goroutines d = .ended true) :
    Pumping sp' (Function.update ρ t role) g' := by
  obtain ⟨-, isAwaited, isAbsent, isRunning, alone, -, -⟩ := pumping
  simp only [← goroutines] at completed terminals awaited absent closing isAwaited isAbsent isRunning
  refine ⟨completed, ?_, ?_, ?_, ?_, closing, terminals⟩
  · grind [Function.update_apply]
  · intro t' owner
    rcases update_cases ρ t role t' with ⟨rfl, same⟩ | ⟨-, same⟩ <;> rw [same] at owner
    · exact absent owner
    · exact isAbsent t' owner
  · grind [Function.update_apply]
  · grind [Function.update_apply]

/-- An access that has nothing to do with the pump. -/
theorem Pumping.still (completed : sp'.completedCleanly = sp.completedCleanly)
    (goroutines : sp'.goroutines = sp.goroutines) (terminals : sp'.terminals = sp.terminals)
    (owner : role.owner = (ρ t).owner) (direction : role.direction = (ρ t).direction)
    (closing : ∀ resources, g' = .closing resources (.terminate true) →
      g = .closing resources (.terminate true)) :
    Pumping sp' (Function.update ρ t role) g' := by
  refine pumping.frame ?_ goroutines ?_ ?_ ?_ ?_ ?_
  · rw [completed]
    exact pumping.clean
  · rw [terminals]
    exact pumping.closed
  · rw [owner]
    exact pumping.awaited t
  · rw [owner]
    exact pumping.absent t
  · grind
  · grind [Pumping.closing]

/-- What has ended cleanly stays so when one goroutine of the pump changes its
state and had not ended. -/
theorem Pumping.change {state : Goroutine} (unfinished : ∀ result, sp.goroutines d ≠ .ended result)
    (notAbsent : sp.goroutines d ≠ .absent) (owner : role.owner = (ρ t).owner)
    (running : ∀ t' d' result, (Function.update ρ t role t').direction = some (d', result) →
      Function.update sp.goroutines d state d' = .running)
    (alone : ∀ t' t'' d' result result',
      (Function.update ρ t role t').direction = some (d', result) →
      (Function.update ρ t role t'').direction = some (d', result') → t' = t'') :
    Pumping { sp with goroutines := Function.update sp.goroutines d state }
      (Function.update ρ t role) g := by
  obtain ⟨isClean, isAwaited, isAbsent, -, -, isClosing, isClosed⟩ := pumping
  refine ⟨?_, ?_, ?_, running, alone, ?_, ?_⟩ <;> grind

/-- The owner creates both goroutines. -/
theorem Pumping.launch (custody : Custody sp ρ g)
    {carrier : CarrierRef} (owner : (ρ t).owner = .installed carrier)
    (launched : role.owner = .launched carrier) (direction : role.direction = (ρ t).direction) :
    Pumping { sp with goroutines := fun _ => .created } (Function.update ρ t role) g := by
  have absent := pumping.absent t (.inr ⟨carrier, owner⟩)
  have notEnded (ended : ∀ d, sp.goroutines d = .ended true) : False := by
    have both := (absent .carrierToTarget).symm.trans (ended _)
    cases both
  have launchedOnly (t' : ℕ) (owns : (Function.update ρ t role t').owner ≠ .none) :
      (Function.update ρ t role t').owner = .launched carrier := by
    rcases update_cases ρ t role t' with ⟨rfl, same⟩ | ⟨other, same⟩
    · rw [same, launched]
    · rw [same] at owns
      exact absurd (custody.owners t' t owns (by simp [owner])) other
  obtain ⟨isClean, -, -, isRunning, alone, isClosing, isClosed⟩ := pumping
  constructor <;> grind

/-- A goroutine takes up a direction. -/
theorem Pumping.start (created : sp.goroutines d = .created) (owner : role.owner = (ρ t).owner)
    (direction : role.direction = some (d, none)) :
    Pumping { sp with goroutines := Function.update sp.goroutines d .running }
      (Function.update ρ t role) g := by
  have isRunning := pumping.running
  have alone := pumping.alone
  refine pumping.change (by simp [created]) (by simp [created]) owner ?_ ?_ <;>
    grind [Function.update_apply]

/-- A goroutine ends its direction. -/
theorem Pumping.finish
    {before : Option Bool} {result : Bool} (runs : (ρ t).direction = some (d, before))
    (owner : role.owner = (ρ t).owner) (direction : role.direction = none) :
    Pumping { sp with goroutines := Function.update sp.goroutines d (.ended result) }
      (Function.update ρ t role) g := by
  have isRunning := pumping.running
  have alone := pumping.alone
  grind [Pumping.change]

theorem Pumping.step (tokens : Tokens sp ρ g) (custody : Custody sp ρ g) (permits : (ρ t).permits c)
    (effect : c.effect done clean sp = some (response, sp')) :
    Pumping sp' (Function.update ρ t ((ρ t).next c response)) (g.next c response) := by
  cases c with
  | setActiveCarrier carrier =>
    have owner : (ρ t).owner = .created := permits
    simp only [SessionCommand.effect] at effect
    split at effect <;> cases effect <;>
      exact pumping.frame pumping.clean rfl pumping.closed (by rintro _ _ _ ⟨⟩)
        (fun _ => pumping.absent t (.inl owner)) (fun d result runs => ⟨result, runs⟩)
        pumping.closing
  | admitWork | awaitStopDone =>
    simp only [SessionCommand.effect] at effect
    split at effect <;> cases effect <;>
      exact pumping.still rfl rfl rfl rfl rfl fun _ => id
  | finishWork =>
    have same := sp.finishWork_eq
    obtain rfl : sp.finishWork.2 = sp' :=
      congrArg Prod.snd (Option.some.inj effect)
    rw [same]
    exact pumping.still rfl rfl rfl rfl rfl fun _ => id
  | beginStop =>
    rcases sp.beginStop_cases with ⟨stops, refused⟩ | ⟨active, taken⟩
    · rw [SessionCommand.effect, refused] at effect
      cases effect
      exact pumping.still rfl rfl rfl rfl rfl fun _ => id
    · rw [SessionCommand.effect, taken] at effect
      cases effect
      refine pumping.still rfl rfl rfl rfl rfl ?_
      rintro _ ⟨⟩
  | started =>
    simp only [SessionCommand.effect, Option.map_eq_some_iff] at effect
    obtain ⟨resources, pending, same⟩ := effect
    cases same
    exact pumping.still rfl rfl rfl rfl rfl fun _ => id
  | cancel =>
    obtain ⟨held, isHeld⟩ := permits
    obtain ⟨rfl, -⟩ := tokens.held t _ _ isHeld
    cases effect
    refine pumping.still rfl rfl rfl rfl rfl ?_
    rcases held with ⟨_ | carrier, _ | _⟩ <;> rintro _ ⟨⟩
  | loadCompletedCleanly =>
    obtain ⟨held, isHeld⟩ := permits
    obtain ⟨rfl, -⟩ := tokens.held t _ _ isHeld
    cases effect
    refine pumping.frame pumping.clean rfl pumping.closed (pumping.awaited t) (pumping.absent t)
      (fun d result runs => ⟨result, runs⟩) ?_
    intro resources terminates
    -- The loaded flag is what the closer acts on.
    exact pumping.clean (StopPhase.terminate.inj (Progress.closing.inj terminates).2)
  | terminate carrier action =>
    obtain ⟨held, wasClean, isHeld, -, rfl⟩ := permits
    obtain ⟨rfl, -⟩ := tokens.held t _ _ isHeld
    cases effect
    refine pumping.frame pumping.clean rfl ?_ (pumping.awaited t) (pumping.absent t)
      (fun d result runs => ⟨result, runs⟩) ?_
    · grind [Pumping.closed, Pumping.closing]
    · rcases held with ⟨active, _ | _⟩ <;> rintro _ ⟨⟩
  | awaitWorkDone =>
    obtain ⟨held, isHeld⟩ := permits
    obtain ⟨rfl, -⟩ := tokens.held t _ _ isHeld
    simp only [SessionCommand.effect] at effect
    split at effect <;> cases effect
    exact pumping.still rfl rfl rfl rfl rfl (by rintro _ ⟨⟩)
  | closeTarget | closeStopDone =>
    obtain ⟨held, isHeld⟩ := permits
    obtain ⟨rfl, -⟩ := tokens.held t _ _ isHeld
    cases effect
    exact pumping.still rfl rfl rfl rfl rfl (by rintro _ ⟨⟩)
  | launch =>
    obtain ⟨carrier, owner⟩ := permits
    cases effect
    refine pumping.launch custody owner ?_ rfl
    simp [Role.next, owner, Ownership.launch]
  | startDirection d =>
    simp only [SessionCommand.effect] at effect
    split at effect
    · rename_i created
      cases effect
      exact pumping.start created rfl rfl
    · cases effect
  | copy d =>
    have runs : (ρ t).direction = some (d, none) := permits
    cases effect
    refine pumping.frame pumping.clean rfl pumping.closed
      (pumping.awaited t) (pumping.absent t) ?_ pumping.closing
    rintro _ _ ⟨⟩
    exact ⟨none, runs⟩
  | endDirection d result =>
    have runs : (ρ t).direction = some (d, some result) := permits
    cases effect
    exact pumping.finish runs rfl rfl
  | awaitDirections =>
    obtain ⟨carrier, owner⟩ := permits
    simp only [SessionCommand.effect] at effect
    split at effect
    · rename_i cleanA cleanB endedA endedB
      cases effect
      have isAwaited : ((ρ t).next .awaitDirections (cleanA, cleanB)).owner =
          .awaited carrier cleanA cleanB := by
        simp [Role.next, owner, Ownership.await]
      refine pumping.frame pumping.clean rfl pumping.closed ?_ ?_
        (fun d result runs => ⟨result, runs⟩) pumping.closing
      · grind
      · simp [isAwaited]
    · cases effect
  | storeCompletedCleanly result =>
    obtain ⟨carrier, cleanA, cleanB, owner, rfl⟩ := permits
    have ended := pumping.awaited t carrier cleanA cleanB owner
    have isStored : ((ρ t).next (.storeCompletedCleanly (cleanA && cleanB)) ()).owner =
        .stored carrier := by
      simp [Role.next, owner, Ownership.store]
    cases effect
    refine pumping.frame ?_ rfl pumping.closed ?_ ?_
      (fun d result runs => ⟨result, runs⟩) pumping.closing
    · intro both d
      obtain ⟨rfl, rfl⟩ := Bool.and_eq_true_iff.mp both
      cases d with
      | carrierToTarget => exact ended.1
      | targetToCarrier => exact ended.2
    · simp [isStored]
    · simp [isStored]
  | go | activeCarrier =>
    cases effect
    exact pumping.still rfl rfl rfl rfl rfl fun _ => id

end

/-! ## The whole invariant -/

/-- Every permitted access to a session preserves its invariant. -/
theorem SessionInvariant.step (inv : SessionInvariant sp ρ g) (permits : (ρ t).permits c)
    (effect : c.effect done clean sp = some (response, sp')) :
    SessionInvariant sp' (Function.update ρ t ((ρ t).next c response)) (g.next c response) where
  tokens := inv.tokens.step permits effect
  working := inv.working.step permits effect
  custody := inv.custody.step inv.tokens permits effect
  targeting := inv.targeting.step inv.tokens permits effect
  pumping := inv.pumping.step inv.tokens inv.custody permits effect

/-- The closer removes the session from the registry. -/
theorem SessionInvariant.remove (inv : SessionInvariant sp ρ g)
    (permits : ∃ resources, (ρ t).closing = some (resources, .remove)) :
    SessionInvariant sp (Function.update ρ t ((ρ t).advance fun _ => .signal))
      (g.advance fun _ => .signal) := by
  obtain ⟨held, isHeld⟩ := permits
  obtain ⟨rfl, -⟩ := inv.tokens.held t _ _ isHeld
  refine ⟨?_, ?_, ?_, ?_, ?_⟩
  · exact inv.tokens.advance isHeld rfl rfl rfl (by simp [Role.advance, isHeld]) rfl
  · exact inv.working.frame rfl rfl rfl rfl rfl
  · exact inv.custody.still rfl rfl rfl rfl rfl
  · have target := inv.targeting.resources _ _ rfl
    refine inv.targeting.frame rfl rfl id ?_ ?_ rfl id
    · rintro _ _ ⟨⟩
      exact target
    · rintro _ ⟨⟩
  · exact inv.pumping.still rfl rfl rfl rfl rfl (by rintro _ ⟨⟩)

/-- A new session, which only its creator knows. -/
theorem SessionInvariant.create (sessionID : GoString) (runtime : RuntimeRef)
    (target : Bool) (unknown : ∀ t, ρ t = {}) :
    SessionInvariant { sessionID, runtime, target }
      (Function.update ρ t { owner := .created }) .active := by
  have known (t' : ℕ) : (t' = t ∧ Function.update ρ t { owner := .created } t' =
          { owner := .created }) ∨
        Function.update ρ t { owner := .created } t' = {} := by
    grind
  have idle (t' : ℕ) : (Function.update ρ t { owner := .created } t').closing = none ∧
        (Function.update ρ t { owner := .created } t').working = false ∧
        (Function.update ρ t { owner := .created } t').stopped = false ∧
        (Function.update ρ t { owner := .created } t').direction = none ∧
        (Function.update ρ t { owner := .created } t').owner.carrier? =
          none := by
    rcases known t' with ⟨-, same⟩ | same <;> rw [same] <;>
      exact ⟨rfl, rfl, rfl, rfl, rfl⟩
  refine ⟨?_, ?_, ?_, ?_, ?_⟩
  · refine ⟨iff_of_true rfl rfl, nofun, fun _ => rfl, ?_, ?_, nofun, ?_⟩ <;> grind
  · refine ⟨⟨∅, ?_, rfl⟩, iff_of_false nofun nofun, rfl⟩
    intro t'
    simp [(idle t').2.1]
  · refine ⟨?_, fun _ => rfl, fun _ => rfl, ?_⟩ <;> grind
  · exact ⟨nofun, nofun, by simp [Progress.pastTarget], nofun⟩
  · refine ⟨nofun, ?_, fun _ _ _ => rfl, ?_, ?_, nofun, nofun⟩ <;> grind [Ownership.carrier?]

end Steps

/-! ## What the invariant says -/

section Consequences

variable {sp : SessionPump} {ρ : ℕ → Role} {g : Progress}

section

variable (inv : SessionInvariant sp ρ g)

include inv

/-- Once `stopDone` is closed, the stop is complete. -/
theorem SessionInvariant.stopped (complete : 0 < sp.stopDone) : g = .stopped := by
  by_contra going
  rw [inv.tokens.undone going] at complete
  exact Nat.lt_irrefl 0 complete

/-- Both channels are closed at most once. -/
theorem SessionInvariant.once : sp.workDone ≤ 1 ∧ sp.stopDone ≤ 1 := by
  constructor
  · rw [inv.working.once]
    split <;> omega
  · by_cases complete : g = .stopped
    · rw [inv.tokens.done complete]
    · rw [inv.tokens.undone complete]
      exact Nat.zero_le 1

/-- When the closer has waited, no admitted work is unfinished. -/
theorem SessionInvariant.idle (waited : 0 < sp.workDone) : sp.workCount = 0 := by
  have closed : sp.workClosed = true := by
    by_contra isOpen
    rw [inv.working.once, if_neg isOpen] at waited
    exact Nat.lt_irrefl 0 waited
  exact (inv.working.closed.mp closed).2

/-- A carrier is terminated at most once, and nothing else is. -/
theorem SessionInvariant.terminals {t : ℕ}
    {carrier : CarrierRef} (owns : (ρ t).owner.carrier? = some carrier) :
    sp.terminals = [] ∨ ∃ action, sp.terminals = [(carrier, action)] := by
  have one := inv.custody.one t carrier owns
  rcases isTerminals : sp.terminals with _ | ⟨⟨terminated, action⟩, rest⟩
  · exact .inl rfl
  · rw [SessionPump.carriers, isTerminals, List.map_cons] at one
    have nothing := congrArg List.length one
    grind

/-- When the stop is complete, the installed carrier has been terminated. -/
theorem SessionInvariant.terminated {t : ℕ}
    {carrier : CarrierRef} (owns : (ρ t).owner.carrier? = some carrier)
    (active : g ≠ .active) (owed : g.owed = none) :
    ∃ action, sp.terminals = [(carrier, action)] := by
  have stops : sp.stopping = true := by
    by_contra going
    rw [Bool.not_eq_true, ← inv.tokens.active] at going
    exact active going
  have one := inv.custody.one t carrier owns
  rw [SessionPump.carriers, inv.custody.taken stops, owed] at one
  rcases inv.terminals owns with none | terminated
  · rw [none] at one
    cases one
  · exact terminated

end

end Consequences

end Tubo
