import Tubo.Runtime.Boundary
import Tubo.Runtime.Lifecycle

/-!
# The life of every session

Package `internal/runtime`, `session.go`: in every interleaving of the goroutines
of a process, each session that exists keeps its invariant, and so each of them
lives as the package promises: one goroutine closes it, no work is admitted
afterwards, the carrier gets one terminal action, and the stop is complete only
when all admitted work has finished.

What happens in the tree is seen from one session as a `SessionStep`: it is not
concerned, it is accessed, it is created, or it is removed from its registry.
-/

namespace Tubo

open Concurrency

/-! ## The tree seen from one session -/

/-- The roles of all goroutines in a session. -/
def rolesIn (q : ℕ → Local) (ref : SessionRef) (t : ℕ) : Role :=
  (q t).role ref

theorem rolesIn_update (q : ℕ → Local) (t : ℕ) (l : Local) (ref : SessionRef) :
    rolesIn (Function.update q t l) ref = Function.update (rolesIn q ref) t (l.role ref) := by
  grind [rolesIn]

/-- An event that does not concern a session leaves its roles alone. -/
theorem rolesIn_update_same {q : ℕ → Local} {t : ℕ} {l : Local}
    {ref : SessionRef} (same : l.role ref = (q t).role ref) :
    rolesIn (Function.update q t l) ref = rolesIn q ref := by
  rw [rolesIn_update, same]
  exact Function.update_eq_self t (rolesIn q ref)

/-- A step of the tree, as far as it concerns one session. -/
inductive SessionStep : Option SessionPump → (ℕ → Role) →
    Option SessionPump → (ℕ → Role) → Prop
  | stay (sp : Option SessionPump) (ρ : ℕ → Role) : SessionStep sp ρ sp ρ
  | access {sp changed : SessionPump} {ρ : ℕ → Role} {t : ℕ}
      {c : SessionCommand} {done clean : Bool} {response : c.Response}
      (permits : (ρ t).permits c)
      (effect : c.effect done clean sp = some (response, changed)) :
      SessionStep (some sp) ρ (some changed) (Function.update ρ t ((ρ t).next c response))
  | create {ρ : ℕ → Role} {t : ℕ} {sessionID : GoString}
      {runtime : RuntimeRef} {target : Bool} :
      SessionStep none ρ (some { sessionID, runtime, target })
        (Function.update ρ t { owner := .created })
  | remove {sp : SessionPump} {ρ : ℕ → Role} {t : ℕ}
      (permits : ∃ resources, (ρ t).closing = some (resources, .remove)) :
      SessionStep (some sp) ρ (some sp) (Function.update ρ t ((ρ t).advance fun _ => .signal))

/-- The commands that change what a goroutine holds of sessions. -/
def RuntimeCommand.concernsSessions : RuntimeCommand → Bool
  | .session .. | .newSession .. | .remove _ => true
  | _ => false

theorem Local.next_role {c : RuntimeCommand} {response : c.Response} {q : Local}
    (other : c.concernsSessions = false) : (q.next c response).role = q.role := by
  cases c with
  | session | newSession | remove => cases other
  | closePipe ref => cases response <;> rfl
  | closeNode => cases response <;> rfl
  | _ => rfl

/-- A new last element is at no other place. -/
theorem getElem?_concat_of_ne {α : Type} {objects : List α} {added : α} {ref : ℕ}
    (other : ref ≠ objects.length) : (objects ++ [added])[ref]? = objects[ref]? := by
  grind

theorem Tree.Exec.sessionStep {c : RuntimeCommand} {tree after : Tree}
    {response : c.Response} {q : ℕ → Local} {t : ℕ}
    (exec : Tree.Exec c tree response after) (permits : (q t).permits c) (ref : SessionRef) :
    SessionStep tree.sessions[ref]? (rolesIn q ref) after.sessions[ref]?
      (rolesIn (Function.update q t ((q t).next c response)) ref) := by
  by_cases other : c.concernsSessions = false
  · have sessions := exec.frame.sessions (by cases c <;> simp_all [Tree.changed,
      RuntimeCommand.concernsSessions])
    rw [rolesIn_update_same (congrFun (Local.next_role other) ref), sessions]
    exact .stay _ _
  cases c with
  | session acted command =>
    obtain ⟨choice, sp, changed, found, effect, rfl⟩ := exec.session_inv
    by_cases same : ref = acted
    · subst same
      rw [rolesIn_update, Local.next, Local.withRole_role_self, found, Tree.setSession,
        List.getElem?_set_self (List.getElem?_eq_some_iff.mp found).1]
      exact .access permits effect
    · have sameRole : ((q t).next (.session acted command) response).role ref =
          (q t).role ref := Local.withRole_role_of_ne same
      rw [rolesIn_update_same sameRole, Tree.setSession, List.getElem?_set_ne (Ne.symm same)]
      exact .stay _ _
  | newSession runtime sessionID target =>
    rcases exec.newSession_inv with ⟨error, rfl, rfl⟩ |
      ⟨owner, -, -, -, rfl, rfl⟩
    · have sameRole : ((q t).next (.newSession runtime sessionID target)
          (.error error)).role ref = (q t).role ref := rfl
      rw [rolesIn_update_same sameRole]
      exact .stay _ _
    · by_cases same : ref = tree.sessions.length
      · subst same
        rw [rolesIn_update, Local.next, Local.withRole_role_self,
          List.getElem?_eq_none le_rfl, List.getElem?_concat_length]
        exact .create
      · have sameRole : ((q t).next (.newSession runtime sessionID target)
            (.ok tree.sessions.length)).role ref = (q t).role ref :=
          Local.withRole_role_of_ne same
        rw [rolesIn_update_same sameRole, getElem?_concat_of_ne same]
        exact .stay _ _
  | remove acted =>
    obtain ⟨sp, runtime, found, -, rfl⟩ := exec.remove_inv
    by_cases same : ref = acted
    · subst same
      rw [rolesIn_update, Local.next, Local.withRole_role_self, Tree.setRuntime, found]
      exact .remove permits
    · have sameRole : ((q t).next (.remove acted) response).role ref =
          (q t).role ref := Local.withRole_role_of_ne same
      rw [rolesIn_update_same sameRole]
      exact .stay _ _
  | _ => exact absurd rfl other

/-! ## The invariant in every interleaving -/

/-- A session keeps its invariant; one that does not exist is unknown. -/
def SessionKept : Option SessionPump → (ℕ → Role) → Prop
  | none, ρ => ∀ t, ρ t = {}
  | some sp, ρ => ∃ g, SessionInvariant sp ρ g

theorem SessionStep.kept {sp later : Option SessionPump} {ρ ρ' : ℕ → Role}
    (step : SessionStep sp ρ later ρ') (kept : SessionKept sp ρ) : SessionKept later ρ' := by
  cases step with
  | stay => exact kept
  | access permits effect =>
    obtain ⟨g, inv⟩ := kept
    exact ⟨_, inv.step permits effect⟩
  | create => exact ⟨.active, .create _ _ _ kept⟩
  | remove permits =>
    obtain ⟨g, inv⟩ := kept
    exact ⟨_, inv.remove permits⟩

/-- What the goroutines of a pool hold. -/
def heldIn (pool : RuntimePool) (t : ℕ) : Local :=
  roles.stateOf (fun _ => {}) {} t pool.history

section Reachable

variable {prim : Primitives} {pool : RuntimePool}

section

variable (reachable : (runtimeSystem prim).Reachable {} pool)

include reachable

/-- **Invariants of the tree**, over the shared state, the history, and what all
goroutines hold. -/
theorem runtimeSystem_world {I : World RuntimeJob RuntimeCommand RuntimeCommand.Response Unit Tree →
      (ℕ → Local) → Prop}
    (start : I ⟨{}, []⟩ fun _ => {}) (silent : ∀ world q t action,
      (∀ c response, action ≠ .ran c response) → I world q →
      I (world.record t action world.state) q)
    (step : ∀ world q t c response after, (q t).permits c →
      Tree.Exec c world.state response after → I world q →
      I (world.record t (.ran c response) after) (Function.update q t ((q t).next c response))) :
    I pool.toWorld (heldIn pool) := by
  refine reachable.protocol_world (P := roles)
    (fun _ _ _ _ => Tree.Exec.expected) (RuntimeJob.obeys prim) start ?_ step
    (fun world q t value => silent world q t (.returned value) (by simp))
  intro world q t job idle holds
  rw [← idle, Function.update_eq_self]
  exact silent world q t (.spawned job) (by simp) holds

theorem runtimeSystem_invariant {I : Tree → (ℕ → Local) → Prop} (start : I {} fun _ => {})
    (step : ∀ tree q t c response after, (q t).permits c →
      Tree.Exec c tree response after → I tree q →
      I after (Function.update q t ((q t).next c response))) :
    I pool.state (heldIn pool) := by
  refine reachable.protocol (P := roles) (fun _ _ _ _ => Tree.Exec.expected)
    (RuntimeJob.obeys prim) start ?_ step
  grind [Function.update_eq_self]

/-- Every goroutine is where its program says. -/
theorem runtimeSystem_obeyed : System.Obeyed roles (fun _ => {}) RuntimeJob.Owes {} pool :=
  reachable.obeyed (fun _ _ _ _ => Tree.Exec.expected) (RuntimeJob.obeys prim)

/-- **Every session keeps its invariant.** -/
theorem runtimeSystem_kept (ref : SessionRef) :
    SessionKept pool.state.sessions[ref]? (rolesIn (heldIn pool) ref) := by
  refine runtimeSystem_invariant (I := fun tree q =>
    SessionKept tree.sessions[ref]? (rolesIn q ref)) reachable ?_ ?_
  · exact fun t => rfl
  · exact fun tree q t c response after permits exec kept =>
      (exec.sessionStep permits ref).kept kept

end

/-! ## Accesses to a session in a history -/

/-- The event at a position of the history is this access to a session. -/
def AccessAt (pool : RuntimePool) (k : ℕ) (ref : SessionRef)
    (c : SessionCommand) (response : c.Response) : Prop :=
  ∃ event, pool.history[k]? = some event ∧ event.action = .ran (.session ref c) response

/-- Work of the session is admitted. -/
def RuntimeEvent.admits (ref : SessionRef) (event : RuntimeEvent) : Bool :=
  match event.action with
  | .ran (.session other .admitWork) true => other == ref
  | _ => false

/-- Work of the session finishes. -/
def RuntimeEvent.finishes (ref : SessionRef) (event : RuntimeEvent) : Bool :=
  match event.action with
  | .ran (.session other .finishWork) _ => other == ref
  | _ => false

section Accesses

variable {ref : SessionRef} {c : SessionCommand} {response : c.Response}
  {k : ℕ}

/-- An access is permitted and has its effect. -/
theorem AccessAt.inv (reachable : (runtimeSystem prim).Reachable {} pool)
    (access : AccessAt pool k ref c response) :
    ∃ event sp changed done clean earlier, pool.history[k]? = some event ∧
      event.before.sessions[ref]? = some sp ∧
      event.after.sessions[ref]? = some changed ∧
      c.effect done clean sp = some (response, changed) ∧
      (runtimeSystem prim).Reachable {} earlier ∧
      earlier.state = event.before ∧
      (rolesIn (heldIn earlier) ref event.thread).permits c := by
  obtain ⟨event, found, isRan⟩ := access
  obtain ⟨earlier, reached, sameState, -, isNext⟩ := reachable.at_event found
  obtain ⟨exec, next, ready⟩ := isNext _ _ isRan
  obtain ⟨job, -, holds⟩ := (runtimeSystem_obeyed reached).threads _ _ ready
  obtain ⟨choice, sp, changed, here, effect, same⟩ := exec.session_inv
  refine ⟨event, sp, changed, _, _, earlier, found, here, ?_, effect, reached, sameState, holds.1⟩
  rw [same, Tree.setSession, List.getElem?_set_self (List.getElem?_eq_some_iff.mp here).1]

variable {done clean : Bool} {sp changed : SessionPump}

/-- Only a session that does not stop gets a closer, and then it stops. -/
theorem effect_beginStop {resources : StopResources}
    (effect : SessionCommand.effect done clean .beginStop sp = some (some resources, changed)) :
    sp.stopping = false ∧ changed.stopping = true := by
  grind [SessionPump.beginStop_cases, SessionCommand.effect]

/-- What happens to a session that does not stop, happens before its closer is
found. -/
theorem AccessAt.before_beginStop (reachable : (runtimeSystem prim).Reachable {} pool) {i : ℕ}
    {resources : StopResources} (access : AccessAt pool k ref c response)
    (active : ∀ done clean sp changed,
      c.effect done clean sp = some (response, changed) → sp.stopping = false)
    (begins : AccessAt pool i ref .beginStop (some resources)) : k ≤ i := by
  by_contra later
  obtain ⟨_, _, changed, _, _, _, first, _, stopped, begun, _⟩ :=
    begins.inv reachable
  obtain ⟨_, sp, _, _, _, _, second, here, _, effect, _⟩ :=
    access.inv reachable
  have grows := (runtimeSystem_ordered reachable).at_index first second (Nat.lt_of_not_le later)
  obtain ⟨after, hereAfter, grew⟩ := grows.sessions ref changed stopped
  obtain rfl := Option.some.inj (here.symm.trans hereAfter)
  have stops := grew.stopping (effect_beginStop begun).2
  rw [active _ _ _ _ effect] at stops
  cases stops

theorem effect_admitWork (effect : SessionCommand.effect done clean .admitWork sp =
      some (true, changed)) : sp.stopping = false := by
  grind [SessionCommand.effect]

/-- `finishWork` does not panic. -/
theorem AccessAt.no_underflow (reachable : (runtimeSystem prim).Reachable {} pool) :
    ¬AccessAt pool k ref .finishWork false := by
  intro access
  obtain ⟨event, sp, changed, _, _, earlier, _, here, _, effect, reached,
    sameState, permits⟩ := access.inv reachable
  have kept := runtimeSystem_kept reached ref
  rw [sameState, here] at kept
  obtain ⟨g, inv⟩ := kept
  have returns := (inv.working.finish permits (show ({} : Role).working = false from rfl)).1
  rw [show sp.finishWork.1 = false from
    congrArg Prod.fst (Option.some.inj effect)] at returns
  cases returns

/-! ### The counter of work -/

/-- The counter of a session, zero if it does not exist. -/
def Tree.workCount (tree : Tree) (ref : SessionRef) : ℤ :=
  (tree.sessions[ref]?.map (·.workCount)).getD 0

/-- What an access adds to the counter. -/
def SessionCommand.workload : (c : SessionCommand) → c.Response → ℤ
  | .admitWork, true => 1
  | .finishWork, _ => -1
  | _, _ => 0

theorem SessionCommand.effect_workCount
    (effect : c.effect done clean sp = some (response, changed)) :
    changed.workCount = sp.workCount + c.workload response := by
  cases c with
  | setActiveCarrier =>
    simp only [SessionCommand.effect] at effect
    split at effect <;> cases effect <;> exact (add_zero _).symm
  | admitWork =>
    simp only [SessionCommand.effect] at effect
    split at effect <;> cases effect
    · exact (add_zero _).symm
    · rfl
  | finishWork =>
    obtain rfl : sp.finishWork.2 = changed :=
      congrArg Prod.snd (Option.some.inj effect)
    rw [SessionPump.finishWork_eq]
    rfl
  | beginStop =>
    rcases sp.beginStop_cases with ⟨-, refused⟩ | ⟨-, taken⟩
    · rw [SessionCommand.effect, refused] at effect
      cases effect
      exact (add_zero _).symm
    · rw [SessionCommand.effect, taken] at effect
      cases effect
      exact (add_zero _).symm
  | started =>
    simp only [SessionCommand.effect, Option.map_eq_some_iff] at effect
    obtain ⟨resources, -, same⟩ := effect
    cases same
    exact (add_zero _).symm
  | awaitWorkDone | awaitStopDone | startDirection | awaitDirections =>
    simp only [SessionCommand.effect] at effect
    split at effect <;> cases effect
    exact (add_zero _).symm
  | go | cancel | loadCompletedCleanly | terminate | closeTarget
  | closeStopDone | activeCarrier | launch | copy | endDirection
  | storeCompletedCleanly =>
    cases effect
    exact (add_zero _).symm

/-- What an event adds to the counter of a session. -/
def RuntimeEvent.workload (ref : SessionRef) (event : RuntimeEvent) : ℤ :=
  (if RuntimeEvent.admits ref event then 1 else 0) -
    if RuntimeEvent.finishes ref event then 1 else 0

theorem RuntimeEvent.workload_session {t : ℕ} {before after : Tree} :
    RuntimeEvent.workload ref ⟨t, .ran (.session ref c) response, before, after⟩ =
      c.workload response := by
  unfold RuntimeEvent.workload RuntimeEvent.admits RuntimeEvent.finishes
  cases c with
  | admitWork => cases response <;> simp [SessionCommand.workload]
  | finishWork => simp [SessionCommand.workload]
  | _ => rfl

/-- Other events add nothing. -/
theorem RuntimeEvent.workload_other {event : RuntimeEvent}
    (other : ∀ c response, event.action ≠ .ran (.session ref c) response) :
    RuntimeEvent.workload ref event = 0 := by
  have notAdmits : RuntimeEvent.admits ref event = false := by
    unfold RuntimeEvent.admits
    split
    · grind
    · rfl
  have notFinishes : RuntimeEvent.finishes ref event = false := by
    unfold RuntimeEvent.finishes
    split
    · grind
    · rfl
  rw [RuntimeEvent.workload, notAdmits, notFinishes]
  rfl

/-- An access to the tree changes the counter of a session only through the
session. -/
theorem Tree.Exec.workCount_eq {c : RuntimeCommand} {tree after : Tree}
    {response : c.Response} (exec : Tree.Exec c tree response after)
    (other : ∀ command, c ≠ .session ref command) : after.workCount ref = tree.workCount ref := by
  unfold Tree.workCount
  by_cases same : after.sessions = tree.sessions
  · rw [same]
  cases c with
  | session acted command =>
    obtain ⟨choice, sp, changed, found, effect, rfl⟩ := exec.session_inv
    have different : acted ≠ ref := by
      rintro rfl
      exact other command rfl
    rw [Tree.setSession, List.getElem?_set_ne different]
  | newSession runtime sessionID target =>
    rcases exec.newSession_inv with ⟨error, rfl, rfl⟩ |
      ⟨owner, -, -, -, rfl, rfl⟩
    · rfl
    · grind
  | _ => exact absurd (exec.frame.sessions (by simp [Tree.changed])) same

/-- The counter of a session is the number of admissions without the number of
completions. -/
theorem workCount_eq_admitted_sub_finished (ref : SessionRef)
    (reachable : (runtimeSystem prim).Reachable {} pool) :
    pool.state.workCount ref = pool.history.countP (RuntimeEvent.admits ref) -
        pool.history.countP (RuntimeEvent.finishes ref) := by
  have counts (events : List RuntimeEvent) (event : RuntimeEvent) :
      ((events ++ [event]).countP (RuntimeEvent.admits ref) : ℤ) -
          (events ++ [event]).countP (RuntimeEvent.finishes ref) =
        events.countP (RuntimeEvent.admits ref) - events.countP (RuntimeEvent.finishes ref) +
          RuntimeEvent.workload ref event := by
    grind [RuntimeEvent.workload]
  refine reachable.recorded (P := fun world => world.state.workCount ref =
    world.history.countP (RuntimeEvent.admits ref) -
      world.history.countP (RuntimeEvent.finishes ref)) rfl ?_ ?_
  · intro world t action silent holds
    rw [World.record_history, counts, RuntimeEvent.workload_other, ← holds]
    · exact (add_zero _).symm
    · exact fun c response => silent _ response
  · intro world t c response after exec holds
    rw [World.record_history, counts, ← holds]
    by_cases concerns : ∃ command, c = .session ref command
    · obtain ⟨command, rfl⟩ := concerns
      obtain ⟨choice, sp, changed, found, effect, rfl⟩ :=
        Tree.Exec.session_inv exec
      rw [RuntimeEvent.workload_session]
      have bound := (List.getElem?_eq_some_iff.mp found).1
      simp only [Tree.workCount, World.record_state, Tree.setSession,
        List.getElem?_set_self bound, found, Option.map_some, Option.getD_some]
      exact SessionCommand.effect_workCount effect
    · rw [RuntimeEvent.workload_other, add_zero]
      · exact Tree.Exec.workCount_eq exec fun command same =>
          concerns ⟨command, same⟩
      · grind

/-! ### The installed carrier -/

/-- A carrier that a session has accepted stays with the goroutine that
installed it. -/
theorem SessionStep.owned {sp later : Option SessionPump} {ρ ρ' : ℕ → Role}
    (step : SessionStep sp ρ later ρ') (kept : SessionKept sp ρ) {t : ℕ}
    {carrier : CarrierRef} (owns : (ρ t).owner.carrier? = some carrier) :
    (ρ' t).owner.carrier? = some carrier := by
  cases step with
  | stay => exact owns
  | @access sp changed ρ acting c done clean response permits effect =>
    rcases update_cases ρ acting ((ρ acting).next c response) t with
      ⟨rfl, same⟩ | ⟨-, same⟩
    · rw [same]
      cases c with
      | setActiveCarrier other =>
        rw [show (ρ t).owner = .created from permits] at owns
        cases owns
      | admitWork => cases response <;> exact owns
      | launch => exact (Ownership.launch_carrier? _).trans owns
      | awaitDirections => exact (Ownership.await_carrier? _ _ _).trans owns
      | storeCompletedCleanly => exact (Ownership.store_carrier? _).trans owns
      | _ => exact owns
    · rw [same]
      exact owns
  | create =>
    rw [kept t] at owns
    cases owns
  | @remove sp ρ acting permits =>
    rcases update_cases ρ acting ((ρ acting).advance fun _ => .signal) t with
      ⟨rfl, same⟩ | ⟨-, same⟩
    · rw [same]
      exact owns
    · rw [same]
      exact owns

/-- Whoever installed a carrier owns it. -/
theorem AccessAt.owned (reachable : (runtimeSystem prim).Reachable {} pool) {carrier : CarrierRef}
    (installs : AccessAt pool k ref (.setActiveCarrier carrier) true) :
    ∃ t, (rolesIn (heldIn pool) ref t).owner.carrier? = some carrier := by
  obtain ⟨event, found, isRan⟩ := installs
  refine (runtimeSystem_world reachable (I := fun world q =>
    SessionKept world.state.sessions[ref]? (rolesIn q ref) ∧
    ∀ event ∈ world.history, event.action = .ran (.session ref (.setActiveCarrier carrier)) true →
      ∃ t, (rolesIn q ref t).owner.carrier? = some carrier)
    ⟨fun _ => rfl, by simp⟩ ?_ ?_).2 event (List.mem_of_getElem? found) isRan
  · rintro world q t action silent ⟨kept, owned⟩
    refine ⟨kept, fun event member isRan => ?_⟩
    rcases List.mem_append.mp member with old | new
    · exact owned event old isRan
    · grind
  · rintro world q t c response after permits exec ⟨kept, owned⟩
    have step := exec.sessionStep permits ref
    refine ⟨step.kept kept, fun event member isRan => ?_⟩
    rcases List.mem_append.mp member with old | new
    · obtain ⟨owner, owns⟩ := owned event old isRan
      exact ⟨owner, step.owned kept owns⟩
    · obtain rfl := List.mem_singleton.mp new
      cases isRan
      refine ⟨t, ?_⟩
      rw [rolesIn_update, Function.update_self, Local.next, Local.withRole_role_self]
      rfl

end Accesses

/-! ## The promise of the package -/

/-- How a session lives: `closer` — at most one caller becomes the closer;
`once` and `noUnderflow` — its channels are closed at most once and the counter
of its work does not underflow; `admitted` — no work is admitted after stopping
began; `carrier` — an installed carrier receives at most one terminal action,
and one by the time the stop is complete; `clean` — it is closed, not reset, only
if both directions of the pump had ended cleanly; `finished` — the stop is
complete only after every admitted work item finished. -/
structure SessionLifecycle (pool : RuntimePool) (ref : SessionRef) (sp : SessionPump) : Prop where
  closer : ∀ i k resources resources', AccessAt pool i ref .beginStop (some resources) →
    AccessAt pool k ref .beginStop (some resources') → i = k
  once : sp.workDone ≤ 1 ∧ sp.stopDone ≤ 1
  noUnderflow : ∀ k, ¬AccessAt pool k ref .finishWork false
  admitted : ∀ i k resources, AccessAt pool i ref .admitWork true →
    AccessAt pool k ref .beginStop (some resources) → i < k
  carrier : ∀ i carrier, AccessAt pool i ref (.setActiveCarrier carrier) true →
    sp.terminals = [] ∧ sp.stopDone = 0 ∨ ∃ action, sp.terminals = [(carrier, action)]
  clean : ∀ carrier, (carrier, .close) ∈ sp.terminals →
    ∀ direction, sp.goroutines direction = .ended true
  finished : 0 < sp.stopDone → pool.history.countP (RuntimeEvent.admits ref) =
      pool.history.countP (RuntimeEvent.finishes ref)

/-- **Session lifecycle.**  In every interleaving of stream handlers, client
connections, admitted work, pumps, stops, requested stops, timers and closes of
runtimes, every session lives as promised. -/
theorem sessionLifecycle (prim : Primitives) (pool : RuntimePool)
    (reachable : (runtimeSystem prim).Reachable {} pool) (ref : SessionRef)
    (sp : SessionPump) (found : pool.state.sessions[ref]? = some sp) :
    SessionLifecycle pool ref sp := by
  have kept := runtimeSystem_kept reachable ref
  rw [found] at kept
  obtain ⟨g, inv⟩ := kept
  have stops (i k : ℕ) (resources resources' : StopResources)
      (first : AccessAt pool i ref .beginStop (some resources))
      (second : AccessAt pool k ref .beginStop (some resources')) : i ≤ k :=
    first.before_beginStop reachable
      (fun _ _ _ _ effect => (effect_beginStop effect).1) second
  refine ⟨?_, inv.once, fun k => AccessAt.no_underflow reachable, ?_, ?_, inv.pumping.closed, ?_⟩
  · grind
  · intro i k resources admits begins
    refine Nat.lt_of_le_of_ne (admits.before_beginStop reachable
      (fun _ _ _ _ effect => effect_admitWork effect) begins) ?_
    rintro rfl
    obtain ⟨event, here, isAdmission⟩ := admits
    obtain ⟨event', here', isBegin⟩ := begins
    grind
  · intro i carrier installs
    obtain ⟨t, owns⟩ := installs.owned reachable
    by_cases complete : 0 < sp.stopDone
    · obtain rfl := inv.stopped complete
      exact .inr (inv.terminated owns nofun rfl)
    · rcases inv.terminals owns with none | one
      · exact .inl ⟨none, by omega⟩
      · exact .inr one
  · intro complete
    obtain rfl := inv.stopped complete
    have waited := inv.targeting.waited rfl
    have counted := workCount_eq_admitted_sub_finished ref reachable
    grind [SessionInvariant.idle, Tree.workCount]

end Reachable

/-! ### A session that completes -/

/-- What `serve` is told in the toy run. -/
def plainAnswers (c : ServeCommand) : c.Response :=
  (plainClient c ()).1

theorem plainAnswers_foreign (c : ServeCommand) : c.Foreign (plainAnswers c) := by
  cases c <;> trivial

/-- A thread takes some steps. -/
def steps (count thread : ℕ) : List (Decision RuntimeJob Bool) :=
  List.replicate count (.move thread true)

/-- A client connection whose two directions end cleanly. -/
def cleanScript : List (Decision RuntimeJob Bool) :=
  [.spawn .newPipeRuntime] ++ steps 1 0 ++ [.spawn (.connect 0 (str "s") true 7)] ++ steps 5 1 ++
    [.spawn (.pump 0 .carrierToTarget)] ++ steps 3 2 ++
    [.spawn (.pump 0 .targetToCarrier)] ++ steps 3 3 ++ steps 11 1

theorem sessionLifecycle_clean : ∃ pool sp, (runtimeSystem plain).Reachable {} pool ∧
    pool.state.sessions[0]? = some sp ∧ sp.terminals = [(7, .close)] ∧
    sp.stopDone = 1 ∧ SessionLifecycle pool 0 sp := by
  obtain ⟨pool, performed, sp, found, closed, complete⟩ : ∃ pool,
      perform (runtimeSystem plain) (Tree.attempt plainAnswers) RuntimeJob.ready
        cleanScript (Pool.start {}) = some pool ∧
      ∃ sp, pool.state.sessions[0]? = some sp ∧ sp.terminals = [(7, .close)] ∧ sp.stopDone = 1 :=
    ⟨_, rfl, _, rfl, rfl, rfl⟩
  have reachable := perform_runtime plainAnswers_foreign performed
  exact ⟨pool, sp, reachable, found, closed, complete,
    sessionLifecycle plain pool reachable 0 sp found⟩

end Tubo
