import Tubo.Runtime.Sessions

/-!
# Closing a runtime stops everything it owns

Package `internal/runtime`, `ownership.go`.  A runtime finds its sessions in its
registry, and a node finds its runtimes in its list.  A session leaves the
registry only when it is *settled*: it stops, its carrier and its target have
received their terminal action, and all admitted work has finished.  So whoever
closes the runtime finds every session that is not settled, and no new one can
come in the meantime.

The argument is made once for each level: `PipeInvariant` for a runtime and its
sessions, `NodeInvariant` for the node and its runtimes.
-/

namespace Tubo

open Concurrency

/-! ## Settled sessions -/

/-- The closer has waited for all admitted work. -/
def SessionPump.Settled (sp : SessionPump) (ρ : ℕ → Role) : Prop :=
  ∃ g, SessionInvariant sp ρ g ∧ g.pastWork = true

namespace SessionPump.Settled

variable {sp : SessionPump} {ρ : ℕ → Role}

/-- What a settled session has behind it. -/
theorem facts (settled : sp.Settled ρ) :
    sp.stopping = true ∧ (sp.target = true → 0 < sp.targetCloses) ∧
      0 < sp.workDone ∧ sp.workCount = 0 := by
  obtain ⟨g, inv, past⟩ := settled
  have notActive : g ≠ .active := by
    rintro rfl
    cases past
  have pastTarget : g.pastTarget = true := by
    rcases g with _ | ⟨resources, phase⟩ | _
    · cases past
    · cases phase <;> first | rfl | cases past
    · rfl
  have waited := inv.targeting.waited past
  refine ⟨?_, ?_, waited, inv.idle waited⟩
  · by_contra going
    rw [Bool.not_eq_true, ← inv.tokens.active] at going
    exact notActive going
  · intro present
    rw [inv.targeting.closes, present, pastTarget]
    exact Nat.one_pos

/-- Its carrier has been terminated. -/
theorem terminated (settled : sp.Settled ρ) {t : ℕ} {carrier : CarrierRef}
    (owns : (ρ t).owner.carrier? = some carrier) :
    ∃ action, sp.terminals = [(carrier, action)] := by
  obtain ⟨g, inv, past⟩ := settled
  refine inv.terminated owns ?_ ?_
  · rintro rfl
    cases past
  · rcases g with _ | ⟨resources, phase⟩ | _
    · rfl
    · cases phase <;> first | rfl | cases past
    · rfl

end SessionPump.Settled

/-- No access takes a stop back behind the wait. -/
theorem SessionInvariant.past_next {sp changed : SessionPump} {ρ : ℕ → Role}
    {g : Progress} {t : ℕ} {c : SessionCommand} {done clean : Bool}
    {response : c.Response} (inv : SessionInvariant sp ρ g) (permits : (ρ t).permits c)
    (effect : c.effect done clean sp = some (response, changed))
    (past : g.pastWork = true) : (g.next c response).pastWork = true := by
  -- The earlier phases belong to a closer that has not waited.
  have behind (resources : StopResources) (phase : StopPhase)
      (held : (ρ t).closing = some (resources, phase)) :
      phase.pastWork = true := by
    obtain ⟨rfl, -⟩ := inv.tokens.held t resources phase held
    exact past
  cases c with
  | beginStop =>
    rcases sp.beginStop_cases with ⟨-, refused⟩ | ⟨active, -⟩
    · rw [SessionCommand.effect, refused] at effect
      cases effect
      exact past
    · rw [inv.tokens.active.mpr active] at past
      cases past
  | cancel | loadCompletedCleanly | closeTarget | awaitWorkDone =>
    obtain ⟨resources, held⟩ := permits
    cases behind resources _ held
  | terminate carrier action =>
    obtain ⟨resources, wasClean, held, -⟩ := permits
    cases behind resources (.terminate wasClean) held
  | closeStopDone => rfl
  | _ => exact past

/-- A session of the tree is settled. -/
def Settled (tree : Tree) (q : ℕ → Local) (ref : SessionRef) : Prop :=
  ∃ sp, tree.sessions[ref]? = some sp ∧ sp.Settled (rolesIn q ref)

theorem SessionStep.settled {sp : SessionPump} {later : Option SessionPump}
    {ρ ρ' : ℕ → Role} (step : SessionStep (some sp) ρ later ρ')
    (settled : sp.Settled ρ) : ∃ after, later = some after ∧ after.Settled ρ' := by
  cases step with
  | stay => exact ⟨sp, rfl, settled⟩
  | access permits effect =>
    obtain ⟨g, inv, past⟩ := settled
    exact ⟨_, rfl, _, inv.step permits effect, inv.past_next permits effect past⟩
  | remove permits =>
    obtain ⟨g, inv, past⟩ := settled
    refine ⟨sp, rfl, _, inv.remove permits, ?_⟩
    cases g with
    | closing => rfl
    | active => cases past
    | stopped => rfl

section Step

variable {c : RuntimeCommand} {tree after : Tree} {response : c.Response}
  {q : ℕ → Local} {t : ℕ}

/-- What is settled stays settled. -/
theorem Settled.step {ref : SessionRef} (settled : Settled tree q ref)
    (permits : (q t).permits c) (exec : Tree.Exec c tree response after) :
    Settled after (Function.update q t ((q t).next c response)) ref := by
  obtain ⟨sp, found, settled⟩ := settled
  have step := exec.sessionStep permits ref
  rw [found] at step
  exact step.settled settled

/-- Who has seen a stop complete, or removes a session from its registry, has to
do with a settled session. -/
theorem settled_of_role {ref : SessionRef} {sp : SessionPump}
    (found : tree.sessions[ref]? = some sp) (kept : SessionKept tree.sessions[ref]? (rolesIn q ref))
    (knows : ((q t).role ref).stopped = true ∨
      ∃ resources, ((q t).role ref).closing = some (resources, .remove)) :
    Settled tree q ref := by
  refine ⟨sp, found, ?_⟩
  rw [found] at kept
  obtain ⟨g, inv⟩ := kept
  refine ⟨g, inv, ?_⟩
  rcases knows with seen | ⟨resources, held⟩
  · rw [inv.tokens.seen t seen]
    rfl
  · rw [(inv.tokens.held t resources .remove held).1]
    rfl

/-! ## One runtime -/

/-- A session of a runtime, with its identifier. -/
def Tree.Owns (tree : Tree) (p : RuntimeRef) (ref : SessionRef) (sessionID : GoString) : Prop :=
  ∃ sp, tree.sessions[ref]? = some sp ∧ sp.runtime = p ∧ sp.sessionID = sessionID

/-- A session is new, or its runtime had it before. -/
theorem Tree.Exec.owns (exec : Tree.Exec c tree response after) {p : RuntimeRef}
    {ref : SessionRef} {sessionID : GoString} (owns : after.Owns p ref sessionID) :
    tree.Owns p ref sessionID ∨ ref = tree.sessions.length ∧ ∃ runtime target,
        tree.runtimes[p]? = some runtime ∧ runtime.closed = false ∧
        c = .newSession p sessionID target ∧
        after.runtimes[p]? = some { runtime with
          registry := (sessionID, ref) :: runtime.registry } := by
  obtain ⟨sp, found, isRuntime, isID⟩ := owns
  rcases Nat.lt_or_ge ref tree.sessions.length with old | new
  · obtain ⟨earlier, here⟩ : ∃ sp, tree.sessions[ref]? = some sp :=
      ⟨_, List.getElem?_eq_getElem old⟩
    obtain ⟨later, hereLater, grows⟩ := exec.grows.sessions ref earlier here
    obtain rfl := Option.some.inj (hereLater.symm.trans found)
    exact .inl ⟨earlier, here, grows.runtime.symm.trans isRuntime, grows.sessionID.symm.trans isID⟩
  · have isNew : after.sessions ≠ tree.sessions := by
      grind
    cases c with
    | session acted command =>
      grind [Tree.Exec.session_inv, Tree.setSession]
    | newSession owner id target =>
      rcases exec.newSession_inv with ⟨error, -, rfl⟩ |
        ⟨runtime, here, isOpen, -, -, rfl⟩
      · exact absurd rfl isNew
      · obtain rfl : ref = tree.sessions.length := by
          grind
        rw [List.getElem?_concat_length] at found
        cases found
        obtain rfl : owner = p := isRuntime
        obtain rfl : id = sessionID := isID
        refine .inr ⟨rfl, runtime, target, here, isOpen, rfl, ?_⟩
        exact List.getElem?_set_self (List.getElem?_eq_some_iff.mp here).1
    | _ => exact absurd (exec.frame.sessions (by simp [Tree.changed])) isNew

end Step

/-- What a runtime has to do with its sessions: `registered` — until the registry
is closed, it has every session that is not settled; `listed` — afterwards, who
closed it has them in its list; `pending`, `early`, `alone` — one goroutine
closes the registry, after the runtime was closed; `complete` — when the close
is complete all sessions are settled. -/
structure PipeInvariant (owns : SessionRef → GoString → Prop)
    (settled : SessionRef → Prop) (runtime : PipeRuntime) (pipes : ℕ → PipeRole) : Prop where
  registered : runtime.registryClosed = false → ∀ ref id, owns ref id →
    (id, ref) ∈ runtime.registry ∨ settled ref
  listed : ∀ t sessions, (pipes t).snapshot = some sessions → runtime.registryClosed = true ∧
      ∀ ref id, owns ref id → ref ∈ sessions ∨ settled ref
  closing : ∀ t, (pipes t).closing = true → runtime.closed = true
  alone : ∀ t t', (pipes t).closing = true → (pipes t').closing = true → t = t'
  pending : ∀ t, (pipes t).closing = true → (pipes t).snapshot = none →
    runtime.registryClosed = false
  early : runtime.closed = false → runtime.registryClosed = false
  complete : 0 < runtime.done → runtime.closed = true ∧ ∀ ref id, owns ref id → settled ref
  seen : ∀ t, (pipes t).closed = true → 0 < runtime.done

namespace PipeInvariant

variable {owns owns' : SessionRef → GoString → Prop}
  {settled settled' : SessionRef → Prop} {runtime : PipeRuntime}
  {pipes : ℕ → PipeRole} {t : ℕ}

/-- A runtime without sessions that nobody knows. -/
theorem create (none : ∀ ref id, ¬owns ref id) (unknown : ∀ t, pipes t = {}) :
    PipeInvariant owns settled {} pipes := by
  constructor <;> grind

section

variable (inv : PipeInvariant owns settled runtime pipes)

include inv

/-- More sessions are settled, and none are new. -/
theorem mono
    (old : ∀ ref id, owns' ref id → owns ref id) (stays : ∀ ref, settled ref → settled' ref) :
    PipeInvariant owns' settled' runtime pipes where
  registered isOpen ref id isOwned :=
    (inv.registered isOpen ref id (old ref id isOwned)).imp_right (stays ref)
  listed t sessions isSnapshot := by
    obtain ⟨closed, all⟩ := inv.listed t sessions isSnapshot
    exact ⟨closed, fun ref id isOwned =>
      (all ref id (old ref id isOwned)).imp_right (stays ref)⟩
  closing := inv.closing
  alone := inv.alone
  pending := inv.pending
  early := inv.early
  complete isDone := ⟨(inv.complete isDone).1, fun ref id isOwned =>
    stays ref ((inv.complete isDone).2 ref id (old ref id isOwned))⟩
  seen := inv.seen

/-- `register` of a new session. -/
theorem register {created : SessionRef} {sessionID : GoString} (isOpen : runtime.closed = false)
    (old : ∀ ref id, owns' ref id → owns ref id ∨ ref = created ∧ id = sessionID)
    (stays : ∀ ref, settled ref → settled' ref) :
    PipeInvariant owns' settled'
      { runtime with registry := (sessionID, created) :: runtime.registry }
      pipes := by
  obtain ⟨registered, listed, closing, alone, pending, early, complete, seen⟩ := inv
  constructor <;> grind

/-- `remove` of a settled session. -/
theorem remove {removed : SessionRef} {sessionID : GoString} (concluded : settled removed) :
    PipeInvariant owns settled
      { runtime with
        registry := runtime.registry.filter (· != (sessionID, removed)) }
      pipes := by
  refine ⟨?_, inv.listed, inv.closing, inv.alone, inv.pending, inv.early, inv.complete, inv.seen⟩
  grind [registered]

/-- A goroutine becomes the one that closes the runtime. -/
theorem close (isOpen : runtime.closed = false) :
    PipeInvariant owns settled { runtime with closed := true, cancelled := true }
      (Function.update pipes t { pipes t with closing := true, snapshot := none }) := by
  obtain ⟨registered, listed, closing, alone, pending, early, complete, seen⟩ := inv
  constructor <;> grind [Function.update_apply]

/-- It closes the registry, and takes the sessions in it. -/
theorem closeRegistry
    (closes : (pipes t).closing = true) (registryOpen : runtime.registryClosed = false) :
    PipeInvariant owns settled { runtime with registryClosed := true, registry := [] }
      (Function.update pipes t { pipes t with snapshot := some (runtime.registry.map (·.2)) }) := by
  obtain ⟨registered, listed, closing, alone, pending, early, complete, seen⟩ := inv
  constructor <;> grind [Function.update_apply]

/-- Who has seen the close complete knows that it is. -/
theorem see (isDone : 0 < runtime.done) :
    PipeInvariant owns settled runtime
      (Function.update pipes t { pipes t with closed := true }) := by
  obtain ⟨registered, listed, closing, alone, pending, early, complete, -⟩ := inv
  constructor <;> grind [Function.update_apply]

/-- When every listed session is settled, all are. -/
theorem emptied {sessions : List SessionRef} (isSnapshot : (pipes t).snapshot = some sessions)
    (concluded : ∀ ref id, owns ref id → ref ∈ sessions → settled ref) :
    runtime.closed = true ∧ ∀ ref id, owns ref id → settled ref := by
  obtain ⟨registryClosed, all⟩ := inv.listed t sessions isSnapshot
  have early := inv.early
  grind

/-- The close is complete. -/
theorem finish (empty : runtime.closed = true ∧ ∀ ref id, owns ref id → settled ref) :
    PipeInvariant owns settled { runtime with done := runtime.done + 1 }
      (Function.update pipes t { pipes t with closed := true }) := by
  have done : PipeInvariant owns settled { runtime with done := runtime.done + 1 }
      pipes :=
    ⟨inv.registered, inv.listed, inv.closing, inv.alone, inv.pending, inv.early,
      fun _ => empty, fun _ _ => Nat.succ_pos _⟩
  exact done.see (Nat.succ_pos _)

end

end PipeInvariant

/-! ### Every runtime of the tree -/

/-- What all goroutines know of a runtime. -/
def pipesIn (q : ℕ → Local) (p : RuntimeRef) (t : ℕ) : PipeRole :=
  (q t).pipe p

theorem pipesIn_update (q : ℕ → Local) (t : ℕ) (l : Local) (p : RuntimeRef) :
    pipesIn (Function.update q t l) p = Function.update (pipesIn q p) t (l.pipe p) := by
  grind [pipesIn]

variable {q : ℕ → Local} {p : RuntimeRef} {tree : Tree}

theorem pipesIn_update_same {t : ℕ} {l : Local} (same : l.pipe p = (q t).pipe p) :
    pipesIn (Function.update q t l) p = pipesIn q p := by
  rw [pipesIn_update, same]
  exact Function.update_eq_self t (pipesIn q p)

/-- The runtime of a command about the close of a runtime. -/
def RuntimeCommand.closes? : RuntimeCommand → Option RuntimeRef
  | .closePipe p | .closeRegistry p | .closePipeDone p | .awaitPipeDone p =>
    some p
  | _ => none

/-- Only these commands change what is known of the runtime. -/
theorem Local.next_pipe {c : RuntimeCommand} {response : c.Response} {q : Local}
    (other : c.closes? ≠ some p) : (q.next c response).pipe p = q.pipe p := by
  cases c with
  | closePipe closed =>
    cases response
    · rfl
    · exact withPipe_pipe_of_ne fun same => other (by rw [same]; rfl)
  | closeRegistry | closePipeDone | awaitPipeDone =>
    exact withPipe_pipe_of_ne fun same => other (by rw [same]; rfl)
  | newSession | closeNode => cases response <;> rfl
  | _ => rfl

/-- A runtime keeps its invariant; one that does not exist is unknown. -/
def PipeKept (tree : Tree) (q : ℕ → Local) (p : RuntimeRef) : Prop :=
  match tree.runtimes[p]? with
  | none => (∀ ref id, ¬tree.Owns p ref id) ∧ ∀ t, pipesIn q p t = {}
  | some runtime =>
    PipeInvariant (tree.Owns p) (Settled tree q) runtime (pipesIn q p)

theorem pipeKept_some {runtime : PipeRuntime} (found : tree.runtimes[p]? = some runtime) :
    PipeKept tree q p ↔ PipeInvariant (tree.Owns p) (Settled tree q) runtime (pipesIn q p) := by
  rw [PipeKept, found]

theorem pipeKept_none (found : tree.runtimes[p]? = none) :
    PipeKept tree q p ↔ (∀ ref id, ¬tree.Owns p ref id) ∧ ∀ t, pipesIn q p t = {} := by
  rw [PipeKept, found]

/-- An event that does not concern a runtime. -/
theorem PipeKept.frame {after : Tree} {q' : ℕ → Local}
    (kept : PipeKept tree q p) (runtimes : after.runtimes[p]? = tree.runtimes[p]?)
    (pipes : pipesIn q' p = pipesIn q p) (old : ∀ ref id, after.Owns p ref id → tree.Owns p ref id)
    (stays : ∀ ref, Settled tree q ref → Settled after q' ref) : PipeKept after q' p := by
  cases found : tree.runtimes[p]? with
  | none =>
    rw [pipeKept_none found] at kept
    rw [pipeKept_none (runtimes.trans found), pipes]
    exact ⟨fun ref id isOwned => kept.1 ref id (old ref id isOwned), kept.2⟩
  | some runtime =>
    rw [pipeKept_some found] at kept
    rw [pipeKept_some (runtimes.trans found), pipes]
    exact kept.mono old stays

section PipeStep

variable {c : RuntimeCommand} {tree after : Tree} {response : c.Response}
  {q : ℕ → Local} {t : ℕ} {p : RuntimeRef}

/-- What a goroutine that has emptied a runtime knows. -/
theorem PipeKept.emptied (kept : PipeKept tree q p)
    (sessions : ∀ ref, SessionKept tree.sessions[ref]? (rolesIn q ref))
    (isEmptied : (q t).Emptied p) :
    ∃ runtime, tree.runtimes[p]? = some runtime ∧ runtime.closed = true ∧
      ∀ ref id, tree.Owns p ref id → Settled tree q ref := by
  obtain ⟨refs, isSnapshot, stopped⟩ := isEmptied
  cases found : tree.runtimes[p]? with
  | none =>
    rw [pipeKept_none found] at kept
    rw [show (q t).pipe p = {} from kept.2 t] at isSnapshot
    cases isSnapshot
  | some runtime =>
    rw [pipeKept_some found] at kept
    have empty := kept.emptied isSnapshot fun ref id isOwned member => by
      obtain ⟨sp, here, -⟩ := isOwned
      exact settled_of_role here (sessions ref) (.inl (stopped ref member))
    exact ⟨runtime, rfl, empty⟩

/-- Every permitted access preserves the invariant of a runtime. -/
theorem PipeKept.step (kept : PipeKept tree q p)
    (sessions : ∀ ref, SessionKept tree.sessions[ref]? (rolesIn q ref))
    (permits : (q t).permits c) (exec : Tree.Exec c tree response after) :
    PipeKept after (Function.update q t ((q t).next c response)) p := by
  have stays (ref : SessionRef) (settled : Settled tree q ref) :
      Settled after (Function.update q t ((q t).next c response)) ref :=
    settled.step permits exec
  have old (other : ∀ id target, c ≠ .newSession p id target)
      (ref : SessionRef) (id : GoString) (isOwned : after.Owns p ref id) :
      tree.Owns p ref id := by
    grind [Tree.Exec.owns]
  have pipes (other : c.closes? ≠ some p) :
      pipesIn (Function.update q t ((q t).next c response)) p = pipesIn q p :=
    pipesIn_update_same (Local.next_pipe other)
  -- The runtime of the command is this one, or it is not concerned.
  have elsewhere (ref : RuntimeRef) (changed : PipeRuntime) (different : p ≠ ref) :
      (tree.setRuntime ref changed).runtimes[p]? = tree.runtimes[p]? :=
    List.getElem?_set_ne (Ne.symm different)
  have here (runtime changed : PipeRuntime) (found : tree.runtimes[p]? = some runtime) :
      (tree.setRuntime p changed).runtimes[p]? = some changed :=
    List.getElem?_set_self (List.getElem?_eq_some_iff.mp found).1
  cases c with
  | newSession owner sessionID target =>
    rcases exec.newSession_inv with ⟨error, rfl, rfl⟩ |
      ⟨runtime, found, isOpen, -, rfl, result⟩
    · exact kept.frame rfl (pipes (by rintro ⟨⟩)) (fun _ _ => id) stays
    · by_cases same : p = owner
      · subst same
        have foundAfter : after.runtimes[p]? = some { runtime with
            registry := (sessionID, tree.sessions.length) ::
              runtime.registry } := by
          rw [result]
          exact here runtime _ found
        rw [pipeKept_some found] at kept
        rw [pipeKept_some foundAfter, pipes (by rintro ⟨⟩)]
        refine kept.register isOpen ?_ stays
        grind [Tree.Exec.owns]
      · refine kept.frame ?_ (pipes (by rintro ⟨⟩)) (old ?_) stays
        · rw [result]
          exact elsewhere owner _ same
        · rintro id target' ⟨⟩
          exact same rfl
  | remove ref =>
    obtain ⟨sp, runtime, foundSession, found, rfl⟩ := exec.remove_inv
    have concluded := settled_of_role foundSession (sessions ref) (.inr permits)
    by_cases same : p = sp.runtime
    · subst same
      rw [pipeKept_some found] at kept
      rw [pipeKept_some (here runtime _ found), pipes (by rintro ⟨⟩)]
      exact (kept.remove concluded).mono (old (by simp)) stays
    · exact kept.frame (elsewhere _ _ same) (pipes (by rintro ⟨⟩)) (old (by simp)) stays
  | newPipeRuntime =>
    rcases exec.newPipeRuntime_inv with ⟨error, rfl, rfl⟩ | ⟨-, rfl, rfl⟩
    · exact kept.frame rfl (pipes (by rintro ⟨⟩)) (old (by simp)) stays
    · by_cases same : p = tree.runtimes.length
      · subst same
        rw [pipeKept_none (List.getElem?_eq_none le_rfl)] at kept
        rw [pipeKept_some List.getElem?_concat_length, pipes (by rintro ⟨⟩)]
        exact .create (fun ref id isOwned =>
          kept.1 ref id (old (by simp) ref id isOwned)) kept.2
      · exact kept.frame (getElem?_concat_of_ne same) (pipes (by rintro ⟨⟩)) (old (by simp))
          stays
  | closePipe closed =>
    obtain ⟨runtime, found, ⟨-, rfl, rfl⟩ | ⟨isOpen, rfl, rfl⟩⟩ :=
      exec.closePipe_inv
    · exact kept.frame rfl (pipesIn_update_same rfl) (old (by simp)) stays
    · by_cases same : p = closed
      · subst same
        rw [pipeKept_some found] at kept
        rw [pipeKept_some (here runtime _ found), pipesIn_update, Local.next,
          Local.withPipe_pipe_self]
        exact (kept.close isOpen).mono (old (by simp)) stays
      · refine kept.frame (elsewhere _ _ same) (pipes ?_) (old (by simp)) stays
        rintro ⟨⟩
        exact same rfl
  | closeRegistry closed =>
    by_cases same : p = closed
    · subst same
      obtain ⟨runtime, found, ⟨isClosed, -, -⟩ | ⟨isOpen, rfl, rfl⟩⟩ :=
        exec.closeRegistry_inv
      · rw [pipeKept_some found] at kept
        have pending := kept.pending t permits.1 permits.2
        rw [isClosed] at pending
        cases pending
      · rw [pipeKept_some found] at kept
        rw [pipeKept_some (here runtime _ found), pipesIn_update, Local.next,
          Local.withPipe_pipe_self]
        exact (kept.closeRegistry permits.1 isOpen).mono (old (by simp)) stays
    · have other : RuntimeCommand.closes? (.closeRegistry closed) ≠ some p := by
        rintro ⟨⟩
        exact same rfl
      obtain ⟨runtime, found, ⟨-, rfl, rfl⟩ | ⟨-, rfl, rfl⟩⟩ :=
        exec.closeRegistry_inv
      · exact kept.frame rfl (pipes other) (old (by simp)) stays
      · exact kept.frame (elsewhere _ _ same) (pipes other) (old (by simp)) stays
  | closePipeDone closed =>
    obtain ⟨runtime, found, rfl⟩ := exec.closePipeDone_inv
    by_cases same : p = closed
    · subst same
      obtain ⟨runtime', found', empty⟩ := kept.emptied sessions permits
      obtain rfl := Option.some.inj (found.symm.trans found')
      rw [pipeKept_some found] at kept
      rw [pipeKept_some (here runtime _ found), pipesIn_update, Local.next,
        Local.withPipe_pipe_self]
      exact (kept.finish empty).mono (old (by simp)) stays
    · refine kept.frame (elsewhere _ _ same) (pipes ?_) (old (by simp)) stays
      rintro ⟨⟩
      exact same rfl
  | awaitPipeDone closed =>
    obtain ⟨⟨runtime, found, isDone⟩, rfl⟩ := exec.awaitPipeDone_inv
    by_cases same : p = closed
    · subst same
      rw [pipeKept_some found] at kept
      rw [pipeKept_some found, pipesIn_update, Local.next, Local.withPipe_pipe_self]
      exact (kept.see isDone).mono (old (by simp)) stays
    · refine kept.frame rfl (pipes ?_) (old (by simp)) stays
      rintro ⟨⟩
      exact same rfl
  | _ =>
    refine kept.frame ?_ (pipes (by rintro ⟨⟩)) (old (by simp)) stays
    rw [exec.frame.runtimes (by simp [Tree.changed])]

end PipeStep

/-! ## The node -/

/-- A runtime is closed and all its sessions are settled. -/
def Down (tree : Tree) (q : ℕ → Local) (p : RuntimeRef) : Prop :=
  (∃ runtime, tree.runtimes[p]? = some runtime ∧ runtime.closed = true) ∧
    ∀ ref id, tree.Owns p ref id → Settled tree q ref

/-- A runtime that is closed gets no new sessions. -/
theorem Down.step {c : RuntimeCommand} {tree after : Tree}
    {response : c.Response} {q : ℕ → Local} {t : ℕ} {p : RuntimeRef}
    (down : Down tree q p) (permits : (q t).permits c) (exec : Tree.Exec c tree response after) :
    Down after (Function.update q t ((q t).next c response)) p := by
  obtain ⟨⟨runtime, found, closed⟩, concluded⟩ := down
  constructor
  · obtain ⟨later, foundLater, grows⟩ := exec.grows.runtimes p runtime found
    exact ⟨later, foundLater, grows.closed closed⟩
  · intro ref id isOwned
    rcases exec.owns isOwned with before | ⟨-, other, _, foundOther, isOpen, -⟩
    · exact (concluded ref id before).step permits exec
    · grind

/-- What the node has to do with its runtimes, as a runtime with its sessions;
`count` is the number of all runtimes. -/
structure NodeInvariant (count : ℕ) (down : RuntimeRef → Prop)
    (node : NodeRuntime) (nodes : ℕ → NodeRole) : Prop where
  registered : ∀ p < count, p ∈ node.pipes ∨ down p
  listed : ∀ t pipes, (nodes t).snapshot = some pipes →
    node.closed = true ∧ ∀ p < count, p ∈ pipes ∨ down p
  complete : 0 < node.done → node.closed = true ∧ ∀ p < count, down p
  seen : ∀ t, (nodes t).closed = true → 0 < node.done

theorem NodeInvariant.mono {count : ℕ} {down down' : RuntimeRef → Prop}
    {node : NodeRuntime} {nodes : ℕ → NodeRole} (inv : NodeInvariant count down node nodes)
    (stays : ∀ p, down p → down' p) : NodeInvariant count down' node nodes where
  registered p bound := (inv.registered p bound).imp_right (stays p)
  listed t pipes isSnapshot := by
    obtain ⟨closed, all⟩ := inv.listed t pipes isSnapshot
    exact ⟨closed, fun p bound => (all p bound).imp_right (stays p)⟩
  complete isDone := ⟨(inv.complete isDone).1, fun p bound =>
    stays p ((inv.complete isDone).2 p bound)⟩
  seen := inv.seen

/-- What all goroutines know of the node. -/
def nodesIn (q : ℕ → Local) (t : ℕ) : NodeRole :=
  (q t).node

theorem nodesIn_update (q : ℕ → Local) (t : ℕ) (l : Local) : nodesIn (Function.update q t l) =
      Function.update (nodesIn q) t l.node := by
  grind [nodesIn]

theorem nodesIn_update_same {q : ℕ → Local} {t : ℕ} {l : Local} (same : l.node = (q t).node) :
    nodesIn (Function.update q t l) = nodesIn q := by
  rw [nodesIn_update, same]
  exact Function.update_eq_self t (nodesIn q)

/-- The commands about the close of the node. -/
def RuntimeCommand.closesNode : RuntimeCommand → Bool
  | .closeNode | .closeNodeDone | .awaitNodeDone => true
  | _ => false

theorem Local.next_node {c : RuntimeCommand} {response : c.Response} {q : Local}
    (other : c.closesNode = false) : (q.next c response).node = q.node := by
  cases c with
  | closeNode | closeNodeDone | awaitNodeDone => cases other
  | closePipe | newSession => cases response <;> rfl
  | _ => rfl

/-- The whole tree keeps its invariants. -/
structure TreeInvariant (tree : Tree) (q : ℕ → Local) : Prop where
  sessions : ∀ ref, SessionKept tree.sessions[ref]? (rolesIn q ref)
  pipes : ∀ p, PipeKept tree q p
  node : NodeInvariant tree.runtimes.length (Down tree q) tree.node (nodesIn q)

section NodeStep

variable {c : RuntimeCommand} {tree after : Tree} {response : c.Response}
  {q : ℕ → Local} {t : ℕ}

/-- Who has seen a runtime closed knows that it is down. -/
theorem TreeInvariant.down (inv : TreeInvariant tree q) {p : RuntimeRef}
    (closed : ((q t).pipe p).closed = true) : Down tree q p := by
  have kept := inv.pipes p
  cases found : tree.runtimes[p]? with
  | none =>
    rw [pipeKept_none found] at kept
    rw [show (q t).pipe p = {} from kept.2 t] at closed
    cases closed
  | some runtime =>
    rw [pipeKept_some found] at kept
    obtain ⟨isClosed, concluded⟩ := kept.complete (kept.seen t closed)
    exact ⟨⟨runtime, found, isClosed⟩, concluded⟩

/-- Only a new runtime makes the list of runtimes longer. -/
theorem Tree.Exec.runtimes_length (exec : Tree.Exec c tree response after)
    (other : c ≠ .newPipeRuntime) : after.runtimes.length = tree.runtimes.length := by
  cases c with
  | newPipeRuntime => exact absurd rfl other
  | newSession owner sessionID target =>
    grind [Tree.Exec.newSession_inv, Tree.setRuntime]
  | remove ref =>
    obtain ⟨sp, runtime, -, -, rfl⟩ := exec.remove_inv
    simp [Tree.setRuntime]
  | closePipe p =>
    grind [Tree.Exec.closePipe_inv, Tree.setRuntime]
  | closeRegistry p =>
    grind [Tree.Exec.closeRegistry_inv, Tree.setRuntime]
  | closePipeDone p =>
    obtain ⟨runtime, -, rfl⟩ := exec.closePipeDone_inv
    simp [Tree.setRuntime]
  | _ => rw [exec.frame.runtimes (by simp [Tree.changed])]

/-- Every permitted access preserves the invariant of the node. -/
theorem TreeInvariant.node_step (inv : TreeInvariant tree q)
    (permits : (q t).permits c) (exec : Tree.Exec c tree response after) :
    NodeInvariant after.runtimes.length
      (Down after (Function.update q t ((q t).next c response))) after.node
      (nodesIn (Function.update q t ((q t).next c response))) := by
  suffices before : NodeInvariant after.runtimes.length (Down tree q) after.node
      (nodesIn (Function.update q t ((q t).next c response))) from
    before.mono fun p down => down.step permits exec
  have node := inv.node
  have nodes (other : c.closesNode = false) :
      nodesIn (Function.update q t ((q t).next c response)) = nodesIn q :=
    nodesIn_update_same (Local.next_node other)
  cases c with
  | newPipeRuntime =>
    rcases exec.newPipeRuntime_inv with ⟨error, rfl, rfl⟩ |
      ⟨isOpen, rfl, rfl⟩
    · rw [nodes rfl]
      exact node
    · rw [nodes rfl]
      obtain ⟨registered, listed, complete, seen⟩ := node
      constructor <;> grind
  | removePipe p =>
    have down : Down tree q p := by
      obtain ⟨runtime, found, closed, concluded⟩ :=
        (inv.pipes p).emptied inv.sessions permits
      exact ⟨⟨runtime, found, closed⟩, concluded⟩
    obtain ⟨choice, executed⟩ := exec
    cases executed
    rw [nodes rfl]
    refine ⟨?_, node.listed, node.complete, node.seen⟩
    grind [NodeInvariant.registered]
  | closeNode =>
    rcases exec.closeNode_inv with ⟨-, rfl, rfl⟩ | ⟨-, rfl, rfl⟩
    · have same : nodesIn (Function.update q t ((q t).next .closeNode none)) =
          nodesIn q := nodesIn_update_same rfl
      rw [same]
      exact node
    · rw [nodesIn_update, Local.next]
      obtain ⟨registered, listed, complete, seen⟩ := node
      have mine : (q t).node.closed = true → 0 < tree.node.done := seen t
      constructor <;> grind [Function.update_apply]
  | closeNodeDone =>
    obtain ⟨pipes, isSnapshot, closed⟩ := permits
    obtain ⟨isClosed, all⟩ := node.listed t pipes isSnapshot
    obtain ⟨choice, executed⟩ := exec
    cases executed
    have isDown (p : RuntimeRef) (bound : p < tree.runtimes.length) : Down tree q p :=
      (all p bound).elim (fun member => inv.down (closed p member)) id
    constructor <;> grind [Function.update_apply, nodesIn]
  | awaitNodeDone =>
    obtain ⟨isDone, rfl⟩ := exec.awaitNodeDone_inv
    rw [nodesIn_update, Local.next]
    refine ⟨node.registered, ?_, node.complete, fun _ _ => isDone⟩
    intro t' pipes isSnapshot
    rw [update_same NodeRole.snapshot (by rfl)] at isSnapshot
    exact node.listed t' pipes isSnapshot
  | cancelParent =>
    obtain ⟨choice, executed⟩ := exec
    cases executed
    rw [nodes rfl]
    exact ⟨node.registered, node.listed, node.complete, node.seen⟩
  | _ =>
    rw [nodes rfl, exec.frame.node (by simp [Tree.changed]), exec.runtimes_length (by simp)]
    exact node

theorem TreeInvariant.step (inv : TreeInvariant tree q)
    (permits : (q t).permits c) (exec : Tree.Exec c tree response after) :
    TreeInvariant after (Function.update q t ((q t).next c response)) where
  sessions ref := (exec.sessionStep permits ref).kept (inv.sessions ref)
  pipes p := (inv.pipes p).step inv.sessions permits exec
  node := inv.node_step permits exec

/-- Nothing exists and nobody knows anything. -/
theorem TreeInvariant.start : TreeInvariant {} fun _ => {} := by
  refine ⟨fun ref t => rfl, ?_, nofun, nofun, nofun, nofun⟩
  intro p
  refine ⟨?_, fun t => rfl⟩
  rintro ref id ⟨sp, found, -⟩
  cases found

end NodeStep

/-! ## After a close -/

section Reachable

variable {prim : Primitives} {pool : RuntimePool}

/-- **The whole tree keeps its invariants**, in every interleaving. -/
theorem runtimeSystem_tree (reachable : (runtimeSystem prim).Reachable {} pool) :
    TreeInvariant pool.state (heldIn pool) :=
  runtimeSystem_invariant reachable TreeInvariant.start
    fun _ _ _ _ _ _ permits exec inv => inv.step permits exec

/-- What a goroutine owes when it returns, holds of it in every later state. -/
theorem owes_of_returned (reachable : (runtimeSystem prim).Reachable {} pool)
    {event : RuntimeEvent} {job : RuntimeJob}
    (runs : pool.toWorld.Runs event.thread job) {earlier : RuntimePool}
    (reached : (runtimeSystem prim).Reachable {} earlier) (grows : earlier.history <+: pool.history)
    (member : event ∈ earlier.history) (isReturn : event.action = .returned ()) :
    job.Owes (heldIn earlier event.thread) () := by
  obtain ⟨-, job', runs', owes⟩ :=
    (runtimeSystem_obeyed reached).returned event member () isReturn
  obtain rfl := reachable.runs_unique (runs'.mono grows) runs
  exact owes

/-- What a complete close leaves of a session: it stops, its installed carrier and
its target have received their terminal action, and all admitted work has
finished. -/
structure SessionOver (pool : RuntimePool) (ref : SessionRef) (sp : SessionPump) : Prop where
  stopping : sp.stopping = true
  carrier : ∀ i carrier, AccessAt pool i ref (.setActiveCarrier carrier) true →
    ∃ action, sp.terminals = [(carrier, action)]
  target : sp.target = true → 0 < sp.targetCloses
  finished : pool.history.countP (RuntimeEvent.admits ref) =
    pool.history.countP (RuntimeEvent.finishes ref)

theorem sessionOver_of_down (reachable : (runtimeSystem prim).Reachable {} pool) {ref : SessionRef}
    {sp : SessionPump} (found : pool.state.sessions[ref]? = some sp)
    (down : Down pool.state (heldIn pool) sp.runtime) : SessionOver pool ref sp := by
  obtain ⟨same, here, settled⟩ := down.2 ref sp.sessionID ⟨sp, found, rfl, rfl⟩
  obtain rfl := Option.some.inj (found.symm.trans here)
  obtain ⟨stopping, target, -, idle⟩ := settled.facts
  refine ⟨stopping, ?_, target, ?_⟩
  · intro i carrier installs
    obtain ⟨t, owns⟩ := installs.owned reachable
    exact settled.terminated owns
  · have counted := workCount_eq_admitted_sub_finished ref reachable
    grind [Tree.workCount]

/-- A goroutine with this job returns at a position of the history. -/
def ReturnsAt (pool : RuntimePool) (k : ℕ) (job : RuntimeJob) : Prop :=
  ∃ event, pool.history[k]? = some event ∧ event.action = .returned () ∧
    pool.toWorld.Runs event.thread job

/-- The job owes the same in every state after its return. -/
theorem ReturnsAt.owes (reachable : (runtimeSystem prim).Reachable {} pool)
    {k : ℕ} {job : RuntimeJob} (returns : ReturnsAt pool k job) :
    (∃ t, job.Owes (heldIn pool t) ()) ∧ ∀ i event, k < i → pool.history[i]? = some event →
        ∃ earlier, (runtimeSystem prim).Reachable {} earlier ∧ earlier.state = event.before ∧
          (∃ t, job.Owes (heldIn earlier t) ()) ∧
          ∀ c response, event.action = .ran c response →
            Tree.Exec c event.before response event.after := by
  obtain ⟨returned, found, isReturn, runs⟩ := returns
  refine ⟨⟨_, owes_of_returned reachable runs reachable List.prefix_rfl
    (List.mem_of_getElem? found) isReturn⟩, ?_⟩
  intro i event later foundLater
  obtain ⟨earlier, reached, sameState, sameHistory, isNext⟩ :=
    reachable.at_event foundLater
  refine ⟨earlier, reached, sameState, ⟨_, owes_of_returned reachable runs
    reached ?_ ?_ isReturn⟩, fun c response isRan => (isNext c response isRan).1⟩
  · rw [sameHistory]
    exact List.take_prefix _ _
  · rw [sameHistory]
    exact mem_take_iff.mpr ⟨k, later, found⟩

/-- **Closing a runtime stops everything it owns.**  Once a `PipeRuntime.Close` has
returned, every session the runtime ever created is over and no `NewSession` on
it succeeds; once a `NodeRuntime.Close` has returned, every session of every
runtime is over and no `NewPipeRuntime` succeeds. -/
theorem close_stops_everything (prim : Primitives) (pool : RuntimePool)
    (reachable : (runtimeSystem prim).Reachable {} pool) (k : ℕ) :
    (∀ p, ReturnsAt pool k (.closePipe p) →
      (∀ ref sp, pool.state.sessions[ref]? = some sp → sp.runtime = p → SessionOver pool ref sp) ∧
      ∀ i event id target ref, k < i → pool.history[i]? = some event →
        event.action ≠ .ran (.newSession p id target) (.ok ref)) ∧
    ∀ job, job = .closeNode ∨ job = .watchNode → ReturnsAt pool k job →
      (∀ ref sp, pool.state.sessions[ref]? = some sp → SessionOver pool ref sp) ∧
      ∀ i event p, k < i → pool.history[i]? = some event →
        event.action ≠ .ran .newPipeRuntime (.ok p) := by
  constructor
  · intro p returns
    obtain ⟨⟨t, owes⟩, later⟩ := returns.owes reachable
    constructor
    · rintro ref sp found rfl
      exact sessionOver_of_down reachable found ((runtimeSystem_tree reachable).down owes)
    · intro i event id target ref after found isRan
      obtain ⟨earlier, reached, sameState, ⟨t', owes'⟩, exec⟩ :=
        later i event after found
      -- The runtime was closed when the session would have been created.
      obtain ⟨⟨runtime, here, closed⟩, -⟩ :=
        (runtimeSystem_tree reached).down owes'
      rcases (exec _ _ isRan).newSession_inv with ⟨error, isError, -⟩ |
        ⟨other, hereOther, isOpen, -⟩
      · cases isError
      · grind
  · intro job isClose returns
    have owes (q : Local) (owed : job.Owes q ()) : q.node.closed = true := by
      rcases isClose with rfl | rfl <;> exact owed
    obtain ⟨⟨t, owed⟩, later⟩ := returns.owes reachable
    constructor
    · intro ref sp found
      have inv := runtimeSystem_tree reachable
      have complete := inv.node.complete (inv.node.seen t (owes _ owed))
      refine sessionOver_of_down reachable found (complete.2 sp.runtime ?_)
      -- The runtime of a session exists.
      by_contra beyond
      have kept := inv.pipes sp.runtime
      rw [pipeKept_none (List.getElem?_eq_none (Nat.le_of_not_lt beyond))] at kept
      exact kept.1 ref sp.sessionID ⟨sp, found, rfl, rfl⟩
    · intro i event p after found isRan
      obtain ⟨earlier, reached, sameState, ⟨t', owed'⟩, exec⟩ :=
        later i event after found
      have inv := runtimeSystem_tree reached
      have closed := (inv.node.complete (inv.node.seen t' (owes _ owed'))).1
      rw [sameState] at closed
      rcases (exec _ _ isRan).newPipeRuntime_inv with ⟨error, isError, -⟩ |
        ⟨isOpen, -⟩
      · cases isError
      · rw [closed] at isOpen
        cases isOpen

end Reachable

/-! ### Two closes -/

/-- A client connection is running when its runtime is closed; then the node is
closed. -/
def closeScript : List (Decision RuntimeJob Bool) :=
  [.spawn .newPipeRuntime] ++ steps 2 0 ++ [.spawn (.connect 0 (str "s") true 7)] ++ steps 5 1 ++
    [.spawn (.closePipe 0)] ++ steps 7 2 ++
    [.spawn (.pump 0 .carrierToTarget)] ++ steps 3 3 ++
    [.spawn (.pump 0 .targetToCarrier)] ++ steps 3 4 ++ steps 3 1 ++
    steps 6 2 ++ [.spawn .closeNode] ++ steps 3 5

theorem close_stops_everything_running : ∃ pool sp, (runtimeSystem plain).Reachable {} pool ∧
    pool.state.sessions[0]? = some sp ∧ sp.terminals = [(7, .reset)] ∧
    (∃ k, ReturnsAt pool k (.closePipe 0)) ∧
    (∃ k, ReturnsAt pool k .closeNode) ∧ SessionOver pool 0 sp := by
  obtain ⟨pool, performed, ⟨sp, found, isRuntime, reset⟩, pipeReturn, nodeReturn⟩ :
      ∃ pool, perform (runtimeSystem plain) (Tree.attempt plainAnswers)
        RuntimeJob.ready closeScript (Pool.start {}) = some pool ∧
      (∃ sp, pool.state.sessions[0]? = some sp ∧ sp.runtime = 0 ∧ sp.terminals = [(7, .reset)]) ∧
      ReturnsAt pool 33 (.closePipe 0) ∧ ReturnsAt pool 37 .closeNode :=
    ⟨_, rfl, ⟨_, rfl, rfl, rfl⟩, ⟨_, rfl, rfl, _, List.mem_of_getElem? (i := 9) rfl, rfl, rfl⟩,
      ⟨_, rfl, rfl, _, List.mem_of_getElem? (i := 34) rfl, rfl, rfl⟩⟩
  have reachable := perform_runtime plainAnswers_foreign performed
  exact ⟨pool, sp, reachable, found, reset, ⟨33, pipeReturn⟩, ⟨37, nodeReturn⟩,
    ((close_stops_everything plain pool reachable 33).1 0 pipeReturn).1 0 sp found isRuntime⟩

end Tubo
