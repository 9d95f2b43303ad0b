import Tubo.Runtime.Ownership

/-!
# What becomes of a served stream

Package `internal/runtime`, `tunnelServer.handle`.  The handler closes or resets
the incoming stream itself, or leaves it to the session that has accepted it.
The session terminates it when it stops; and a session whose handler was denied
work is one that stops, or one whose runtime or node is being closed.

If the session refuses the stream, `serve` still reports that the stream was
transferred, and nobody terminates it: see `handle_leaks_stream`.
-/

namespace Tubo

open Concurrency

/-- Every close that was begun is complete: of a session, of a runtime, and of the
node, whose close begins when its context is cancelled. -/
structure Quiet (tree : Tree) : Prop where
  sessions : ∀ sp ∈ tree.sessions, sp.stopping = true → 0 < sp.stopDone
  runtimes : ∀ runtime ∈ tree.runtimes, runtime.closed = true → 0 < runtime.done
  node : tree.node.cancelled = true → 0 < tree.node.done

instance (tree : Tree) : Decidable (Quiet tree) :=
  decidable_of_iff ((∀ sp ∈ tree.sessions, sp.stopping = true → 0 < sp.stopDone) ∧
      (∀ runtime ∈ tree.runtimes, runtime.closed = true → 0 < runtime.done) ∧
      (tree.node.cancelled = true → 0 < tree.node.done))
    ⟨fun ⟨sessions, runtimes, node⟩ => ⟨sessions, runtimes, node⟩,
      fun ⟨sessions, runtimes, node⟩ => ⟨sessions, runtimes, node⟩⟩

/-- A stream has been closed or reset, by its handler or by a session. -/
def StreamOver (tree : Tree) (carrier : CarrierRef) : Prop :=
  (∃ ended ∈ tree.streams, ended.1 = carrier) ∨
    ∃ sp ∈ tree.sessions, ∃ ended ∈ sp.terminals, ended.1 = carrier

instance (tree : Tree) (carrier : CarrierRef) : Decidable (StreamOver tree carrier) :=
  inferInstanceAs (Decidable (_ ∨ _))

/-! ## What the shared state has to do with a handler -/

/-- A session cannot do more work: it stops, or a context above it is
cancelled. -/
def Ending (tree : Tree) (ref : SessionRef) : Prop :=
  ∃ sp, tree.sessions[ref]? = some sp ∧ (sp.stopping = true ∨ tree.node.cancelled = true ∨
      ∃ runtime, tree.runtimes[sp.runtime]? = some runtime ∧ runtime.closed = true)

theorem Ending.grows {tree later : Tree} {ref : SessionRef}
    (ending : Ending tree ref) (grows : tree.Grows later) : Ending later ref := by
  obtain ⟨sp, found, reason⟩ := ending
  obtain ⟨after, foundAfter, grew⟩ := grows.sessions ref sp found
  refine ⟨after, foundAfter, ?_⟩
  rcases reason with stops | cancelled | ⟨runtime, here, closed⟩
  · exact .inl (grew.stopping stops)
  · exact .inr (.inl (grows.node.cancelled cancelled))
  · obtain ⟨afterRuntime, hereAfter, grewRuntime⟩ :=
      grows.runtimes sp.runtime runtime here
    grind [SessionPump.Grows.runtime, PipeRuntime.Grows.closed]

/-- What cancels a context: a session that is cancelled stops, and a runtime that
is cancelled is closed. -/
structure Cancelling (tree : Tree) : Prop where
  sessions : ∀ (ref : SessionRef) (sp : SessionPump),
    tree.sessions[ref]? = some sp → sp.cancelled = true → sp.stopping = true
  runtimes : ∀ (p : RuntimeRef) (runtime : PipeRuntime),
    tree.runtimes[p]? = some runtime → runtime.cancelled = true →
    runtime.closed = true

/-- What a handler knows of its stream. -/
structure StreamInvariant (tree : Tree) (q : ℕ → Local) : Prop where
  owned : TreeInvariant tree q
  cancelling : Cancelling tree
  streamed : ∀ t, ∀ carrier ∈ (q t).streamed, ∃ action, (carrier, action) ∈ tree.streams
  denied : ∀ t ref, ((q t).role ref).denied = true → Ending tree ref

/-- Only one access cancels a session. -/
theorem SessionCommand.effect_cancelled {c : SessionCommand}
    {done clean : Bool} {sp changed : SessionPump} {response : c.Response}
    (effect : c.effect done clean sp = some (response, changed))
    (cancelled : changed.cancelled = true) : sp.cancelled = true ∨ c = .cancel := by
  cases c with
  | cancel => exact .inr rfl
  | setActiveCarrier | admitWork =>
    grind [SessionCommand.effect]
  | finishWork =>
    obtain rfl : sp.finishWork.2 = changed :=
      congrArg Prod.snd (Option.some.inj effect)
    rw [SessionPump.finishWork_eq] at cancelled
    exact .inl cancelled
  | beginStop =>
    rcases sp.beginStop_cases with ⟨-, refused⟩ | ⟨-, taken⟩
    · grind [SessionCommand.effect]
    · grind [SessionCommand.effect]
  | started =>
    grind [Option.map_eq_some_iff, SessionCommand.effect]
  | awaitWorkDone | awaitStopDone | startDirection | awaitDirections =>
    grind [SessionCommand.effect]
  | go | loadCompletedCleanly | terminate | closeTarget | closeStopDone
  | activeCarrier | launch | copy | endDirection | storeCompletedCleanly =>
    cases effect
    exact .inl cancelled

/-- Only the closer cancels a session. -/
theorem SessionStep.cancelling {sp later : Option SessionPump}
    {ρ ρ' : ℕ → Role} (step : SessionStep sp ρ later ρ') (kept : SessionKept sp ρ)
    (before : ∀ s, sp = some s → s.cancelled = true → s.stopping = true) :
    ∀ s, later = some s → s.cancelled = true → s.stopping = true := by
  rintro s rfl cancelled
  cases step with
  | stay => exact before s rfl cancelled
  | remove => exact before s rfl cancelled
  | create => cases cancelled
  | @access sp _ _ t c _ _ _ permits effect =>
    have grew := SessionCommand.effect_grows effect
    rcases SessionCommand.effect_cancelled effect cancelled with already | rfl
    · exact grew.stopping (before sp rfl already)
    · obtain ⟨resources, held⟩ := permits
      obtain ⟨g, inv⟩ := kept
      obtain ⟨rfl, -⟩ := inv.tokens.held t _ _ held
      refine grew.stopping ?_
      by_contra active
      rw [Bool.not_eq_true, ← inv.tokens.active] at active
      cases active

section Step

variable {c : RuntimeCommand} {tree after : Tree} {response : c.Response}
  {q : ℕ → Local} {t : ℕ}

/-- A runtime is cancelled when it is closed. -/
theorem Tree.Exec.runtime_cancelled (exec : Tree.Exec c tree response after)
    (before : ∀ (p : RuntimeRef) (runtime : PipeRuntime),
      tree.runtimes[p]? = some runtime → runtime.cancelled = true →
      runtime.closed = true) (p : RuntimeRef) (runtime : PipeRuntime)
    (found : after.runtimes[p]? = some runtime)
    (cancelled : runtime.cancelled = true) : runtime.closed = true := by
  -- The runtimes of the list in which one was replaced.
  have set (ref : RuntimeRef) (old changed : PipeRuntime) (here : tree.runtimes[ref]? = some old)
      (found : (tree.setRuntime ref changed).runtimes[p]? = some runtime)
      (holds : (old.cancelled = true → old.closed = true) →
        changed.cancelled = true → changed.closed = true) :
      runtime.closed = true := by
    grind [Tree.setRuntime]
  cases c with
  | newSession owner sessionID target =>
    grind [Tree.Exec.newSession_inv]
  | remove ref =>
    grind [Tree.Exec.remove_inv]
  | newPipeRuntime =>
    rcases exec.newPipeRuntime_inv with ⟨error, -, rfl⟩ | ⟨-, -, rfl⟩
    · exact before p runtime found cancelled
    · grind
  | closePipe ref =>
    grind [Tree.Exec.closePipe_inv]
  | closeRegistry ref =>
    grind [Tree.Exec.closeRegistry_inv]
  | closePipeDone ref =>
    grind [Tree.Exec.closePipeDone_inv]
  | _ =>
    rw [exec.frame.runtimes (by simp [Tree.changed])] at found
    exact before p runtime found cancelled

theorem Cancelling.step (cancelling : Cancelling tree)
    (inv : TreeInvariant tree q) (permits : (q t).permits c)
    (exec : Tree.Exec c tree response after) : Cancelling after :=
  ⟨fun ref => (exec.sessionStep permits ref).cancelling (inv.sessions ref)
    (cancelling.sessions ref), exec.runtime_cancelled cancelling.runtimes⟩

/-- Work is denied when the session stops or its context is cancelled. -/
theorem Cancelling.ending (cancelling : Cancelling tree) {ref : SessionRef}
    (exec : Tree.Exec (.session ref .admitWork) tree false after) : Ending tree ref := by
  obtain ⟨choice, sp, changed, found, effect, -⟩ := exec.session_inv
  refine ⟨sp, found, ?_⟩
  simp only [SessionCommand.effect] at effect
  split at effect
  · grind [Cancelling.sessions, Cancelling.runtimes, Tree.sessionDone]
  · cases effect

/-- Only an access that denies work makes a goroutine know so. -/
theorem Local.next_denied {l : Local} {ref : SessionRef} (other : c ≠ .session ref .admitWork)
    (denied : ((l.next c response).role ref).denied = true) : (l.role ref).denied = true := by
  cases c with
  | session acted command =>
    by_cases same : ref = acted
    · subst same
      rw [Local.next, Local.withRole_role_self] at denied
      cases command with
      | admitWork => exact absurd rfl other
      | _ => exact denied
    · rw [Local.next, Local.withRole_role_of_ne same] at denied
      exact denied
  | newSession owner sessionID target =>
    cases response with
    | error error => exact denied
    | ok created =>
      grind [Local.withRole_role_self, Local.withRole_role_of_ne, Local.next]
  | remove acted =>
    by_cases same : ref = acted
    · subst same
      rw [Local.next, Local.withRole_role_self] at denied
      exact denied
    · rw [Local.next, Local.withRole_role_of_ne same] at denied
      exact denied
  | _ =>
    rw [Local.next_role rfl] at denied
    exact denied

/-- Only a refusal makes a goroutine know so. -/
theorem Local.next_refused {l : Local} {ref : SessionRef}
    (refused : ((l.next c response).role ref).owner = .refused) :
    (l.role ref).owner = .refused ∨ ∃ carrier, (.ran c response :
          Action RuntimeJob RuntimeCommand RuntimeCommand.Response Unit) =
        .ran (.session ref (.setActiveCarrier carrier)) false := by
  cases c with
  | session acted command =>
    by_cases same : ref = acted
    · subst same
      rw [Local.next, Local.withRole_role_self] at refused
      cases command with
      | setActiveCarrier carrier =>
        cases response with
        | false => exact .inr ⟨carrier, rfl⟩
        | true => cases refused
      | admitWork => cases response <;> exact .inl refused
      | launch | awaitDirections | storeCompletedCleanly =>
        simp only [Role.next] at refused
        cases owner : (l.role ref).owner <;> rw [owner] at refused <;>
          first | exact .inl rfl | cases refused
      | _ => exact .inl refused
    · rw [Local.next, Local.withRole_role_of_ne same] at refused
      exact .inl refused
  | newSession owner sessionID target =>
    cases response with
    | error error => exact .inl refused
    | ok created =>
      grind [Local.withRole_role_self, Local.withRole_role_of_ne, Local.next]
  | remove acted =>
    by_cases same : ref = acted
    · subst same
      rw [Local.next, Local.withRole_role_self] at refused
      exact .inl refused
    · rw [Local.next, Local.withRole_role_of_ne same] at refused
      exact .inl refused
  | _ =>
    rw [Local.next_role rfl] at refused
    exact .inl refused

/-- Only a close or reset of a stream makes a goroutine know so. -/
theorem Local.next_streamed {l : Local} (other : ∀ carrier action, c ≠ .stream carrier action) :
    (l.next c response).streamed = l.streamed := by
  cases c with
  | stream carrier action => exact absurd rfl (other carrier action)
  | newSession => cases response <;> rfl
  | closePipe => cases response <;> rfl
  | closeNode => cases response <;> rfl
  | _ => rfl

theorem Tree.Exec.streams_prefix (exec : Tree.Exec c tree response after) :
    tree.streams <+: after.streams := by
  cases c with
  | stream carrier action =>
    obtain ⟨choice, executed⟩ := exec
    cases executed
    exact List.prefix_append _ _
  | _ => rw [exec.frame.streams (by simp [Tree.changed])]

theorem StreamInvariant.step (inv : StreamInvariant tree q)
    (permits : (q t).permits c) (exec : Tree.Exec c tree response after) :
    StreamInvariant after (Function.update q t ((q t).next c response)) := by
  refine ⟨inv.owned.step permits exec, inv.cancelling.step inv.owned permits exec, ?_, ?_⟩
  · intro t' carrier member
    have old (known : carrier ∈ (q t').streamed) : ∃ action, (carrier, action) ∈ after.streams := by
      obtain ⟨action, done⟩ := inv.streamed t' carrier known
      exact ⟨action, exec.streams_prefix.subset done⟩
    by_cases acting : t' = t
    · subst acting
      rw [Function.update_self] at member
      by_cases isStream : ∃ carrier action, c = .stream carrier action
      · obtain ⟨terminated, action, rfl⟩ := isStream
        rcases List.mem_cons.mp member with rfl | known
        · obtain ⟨choice, executed⟩ := exec
          cases executed
          exact ⟨action, by simp⟩
        · exact old known
      · grind [Local.next_streamed]
    · grind
  · intro t' ref denied
    have old (before : ((q t').role ref).denied = true) : Ending after ref :=
      (inv.denied t' ref before).grows exec.grows
    by_cases acting : t' = t
    · subst acting
      rw [Function.update_self] at denied
      by_cases isAdmission : c = .session ref .admitWork
      · subst isAdmission
        cases response with
        | false => exact (inv.cancelling.ending exec).grows exec.grows
        | true =>
          rw [Local.next, Local.withRole_role_self] at denied
          exact old denied
      · exact old (Local.next_denied isAdmission denied)
    · grind

end Step

/-! ## Handlers that have returned -/

/-- A session refuses a carrier. -/
def RuntimeEvent.refuses (event : RuntimeEvent) : Bool :=
  match event.action with
  | .ran (.session _ (.setActiveCarrier _)) false => true
  | _ => false

section Reachable

variable {prim : Primitives} {pool : RuntimePool}

theorem runtimeSystem_stream (reachable : (runtimeSystem prim).Reachable {} pool) :
    StreamInvariant pool.state (heldIn pool) :=
  runtimeSystem_invariant reachable ⟨TreeInvariant.start, ⟨nofun, nofun⟩, nofun, nofun⟩
    fun _ _ _ _ _ _ permits exec inv => inv.step permits exec

/-- A goroutine whose session refused its carrier has asked it to accept one. -/
theorem refused_event (reachable : (runtimeSystem prim).Reachable {} pool)
    {t : ℕ} {ref : SessionRef} (refused : ((heldIn pool t).role ref).owner = .refused) :
    ∃ event ∈ pool.history, event.thread = t ∧ RuntimeEvent.refuses event = true := by
  refine runtimeSystem_world reachable (I := fun world q =>
    ∀ t ref, ((q t).role ref).owner = .refused → ∃ event ∈ world.history, event.thread = t ∧
        RuntimeEvent.refuses event = true) nofun ?_ ?_ t ref refused
  · intro world q thread action silent holds t ref refused
    obtain ⟨event, member, isRefusal⟩ := holds t ref refused
    exact ⟨event, List.mem_append_left _ member, isRefusal⟩
  · intro world q thread c response after permits exec holds t ref refused
    have old (before : ((q t).role ref).owner = .refused) :
        ∃ event ∈ (world.record thread (.ran c response) after).history,
          event.thread = t ∧ RuntimeEvent.refuses event = true := by
      obtain ⟨event, member, isRefusal⟩ := holds t ref before
      exact ⟨event, List.mem_append_left _ member, isRefusal⟩
    by_cases acting : t = thread
    · subst acting
      rw [Function.update_self] at refused
      rcases Local.next_refused refused with before | ⟨carrier, isRefusal⟩
      · exact old before
      · refine ⟨_, List.mem_append_right _ (List.mem_singleton_self _), rfl, ?_⟩
        rw [RuntimeEvent.refuses, isRefusal]
    · grind

/-- A session that a goroutine has seen stopped has settled. -/
theorem TreeInvariant.settled_of_stopped {tree : Tree} {q : ℕ → Local}
    (inv : TreeInvariant tree q) {t : ℕ} {ref : SessionRef}
    (stopped : ((q t).role ref).stopped = true) : Settled tree q ref := by
  have kept := inv.sessions ref
  cases here : tree.sessions[ref]? with
  | none =>
    rw [here] at kept
    rw [show (q t).role ref = {} from kept t] at stopped
    cases stopped
  | some sp => exact settled_of_role here (inv.sessions ref) (.inl stopped)

/-- In a quiet tree, a session that is ending has settled. -/
theorem StreamInvariant.settled {tree : Tree} {q : ℕ → Local}
    (inv : StreamInvariant tree q) (quiet : Quiet tree) {ref : SessionRef}
    (ending : Ending tree ref) : Settled tree q ref := by
  obtain ⟨sp, found, stops | cancelled | ⟨runtime, here, closed⟩⟩ := ending
  · have kept := inv.owned.sessions ref
    rw [found] at kept
    obtain ⟨g, holds⟩ := kept
    refine ⟨sp, found, g, holds, ?_⟩
    rw [holds.stopped (quiet.sessions sp (List.mem_of_getElem? found) stops)]
    rfl
  · have complete := inv.owned.node.complete (quiet.node cancelled)
    refine (complete.2 sp.runtime ?_).2 ref sp.sessionID ⟨sp, found, rfl, rfl⟩
    by_contra beyond
    have kept := inv.owned.pipes sp.runtime
    rw [pipeKept_none (List.getElem?_eq_none (Nat.le_of_not_lt beyond))] at kept
    exact kept.1 ref sp.sessionID ⟨sp, found, rfl, rfl⟩
  · have kept := inv.owned.pipes sp.runtime
    rw [pipeKept_some here] at kept
    have complete := kept.complete (quiet.runtimes runtime (List.mem_of_getElem? here) closed)
    exact complete.2 ref sp.sessionID ⟨sp, found, rfl, rfl⟩

/-- **No served stream is leaked, if its session accepts it.**  Once `handle` has
returned and every close that was begun is complete, the stream has been closed
or reset, provided that the session did not refuse it. -/
theorem handle_terminates_stream (prim : Primitives) (pool : RuntimePool)
    (reachable : (runtimeSystem prim).Reachable {} pool)
    (server : TunnelServer) (p : RuntimeRef) (carrier : CarrierRef)
    (event : RuntimeEvent) (member : event ∈ pool.history) (isReturn : event.action = .returned ())
    (runs : pool.toWorld.Runs event.thread (.handle server p carrier)) (quiet : Quiet pool.state)
    (accepted : ∀ other ∈ pool.history, other.thread = event.thread →
      RuntimeEvent.refuses other = false) :
    StreamOver pool.state carrier := by
  have inv := runtimeSystem_stream reachable
  rcases owes_of_returned reachable runs reachable List.prefix_rfl member
    isReturn with itself | ⟨ref, refused⟩ | ⟨ref, owns, concluded⟩
  · obtain ⟨action, done⟩ := inv.streamed event.thread carrier itself
    exact .inl ⟨_, done, rfl⟩
  · obtain ⟨other, otherMember, sameThread, isRefusal⟩ :=
      refused_event reachable refused
    grind
  · obtain ⟨sp, here, settled⟩ : Settled pool.state (heldIn pool) ref := by
      rcases concluded with stopped | denied
      · exact inv.owned.settled_of_stopped stopped
      · exact inv.settled quiet (inv.denied event.thread ref denied)
    obtain ⟨action, terminals⟩ := settled.terminated owns
    refine .inr ⟨sp, List.mem_of_getElem? here, (carrier, action), ?_, rfl⟩
    rw [terminals]
    exact List.mem_singleton_self _

end Reachable

/-! ### A stream that is terminated, and one that is leaked -/

/-- The start of both runs: a runtime is created. -/
def runtimeScript : List (Decision RuntimeJob Bool) :=
  [.spawn .newPipeRuntime] ++ steps 2 0

/-- A handler serves stream 7, and its two directions end cleanly. -/
def servedScript : List (Decision RuntimeJob Bool) :=
  steps 22 1 ++ [.spawn (.pump 0 .carrierToTarget)] ++ steps 3 2 ++
    [.spawn (.pump 0 .targetToCarrier)] ++ steps 3 3 ++ steps 14 1

/-- The runtime is closed after the handler of stream 7 has created its session
and before it offers the stream. -/
def leakScript : List (Decision RuntimeJob Bool) :=
  steps 16 1 ++ [.spawn (.closePipe 0)] ++ steps 11 2 ++ steps 4 1

/-- The run of a script around the handler of stream 7. -/
def handlerRun (script : List (Decision RuntimeJob Bool)) : Option RuntimePool :=
  perform (runtimeSystem plain) (Tree.attempt plainAnswers) RuntimeJob.ready
    (runtimeScript ++ .spawn (.handle plainServer 0 7) :: script) (Pool.start {})

/-- A thread returns. -/
def RuntimeEvent.returns (t : ℕ) (event : RuntimeEvent) : Bool :=
  match event.action with
  | .returned _ => event.thread == t
  | _ => false

/-- The handler is thread 1 of the run. -/
theorem handlerRun_runs {script : List (Decision RuntimeJob Bool)}
    {pool : RuntimePool} (performed : handlerRun script = some pool) :
    pool.toWorld.Runs 1 (.handle plainServer 0 7) := by
  obtain ⟨middle, first, runs⟩ := perform_runs performed
  have count : (perform (runtimeSystem plain) (Tree.attempt plainAnswers)
      RuntimeJob.ready runtimeScript (Pool.start {})).map (·.threads.length) =
      some 1 := rfl
  grind

theorem RuntimeEvent.of_returns {t : ℕ} {events : List RuntimeEvent}
    (returns : events.any (RuntimeEvent.returns t) = true) :
    ∃ event ∈ events, event.action = .returned () ∧ event.thread = t := by
  grind [RuntimeEvent.returns]

theorem handle_terminates_stream_served : ∃ pool event,
    (runtimeSystem plain).Reachable {} pool ∧ event ∈ pool.history ∧
    event.action = .returned () ∧
    pool.toWorld.Runs event.thread (.handle plainServer 0 7) ∧
    Quiet pool.state ∧ StreamOver pool.state 7 := by
  have computed : (handlerRun servedScript).any (fun pool =>
      pool.history.any (RuntimeEvent.returns 1) && decide (Quiet pool.state) &&
        pool.history.all fun other => !RuntimeEvent.refuses other) = true := by
    decide +kernel
  obtain ⟨pool, performed, facts⟩ := (Option.any_eq_true _ _).mp computed
  rw [Bool.and_eq_true, Bool.and_eq_true, decide_eq_true_eq] at facts
  obtain ⟨⟨returns, quiet⟩, all⟩ := facts
  obtain ⟨event, member, isReturn, isThread⟩ := RuntimeEvent.of_returns returns
  have reachable := perform_runtime plainAnswers_foreign performed
  have runs : pool.toWorld.Runs event.thread (.handle plainServer 0 7) := by
    rw [isThread]
    exact handlerRun_runs performed
  refine ⟨pool, event, reachable, member, isReturn, runs, quiet,
    handle_terminates_stream plain pool reachable plainServer 0 7 event member
      isReturn runs quiet ?_⟩
  grind

/-- **A leaked stream.**  The close of the runtime is complete, the handler has
returned, and nobody has closed or reset the stream. -/
theorem handle_leaks_stream : ∃ pool event,
    (runtimeSystem plain).Reachable {} pool ∧ event ∈ pool.history ∧
    event.action = .returned () ∧
    pool.toWorld.Runs event.thread (.handle plainServer 0 7) ∧
    Quiet pool.state ∧ ¬StreamOver pool.state 7 := by
  have computed : (handlerRun leakScript).any (fun pool =>
      pool.history.any (RuntimeEvent.returns 1) && decide (Quiet pool.state) &&
        decide (¬StreamOver pool.state 7)) = true := by
    decide +kernel
  obtain ⟨pool, performed, facts⟩ := (Option.any_eq_true _ _).mp computed
  rw [Bool.and_eq_true, Bool.and_eq_true, decide_eq_true_eq, decide_eq_true_eq] at facts
  obtain ⟨⟨returns, quiet⟩, leaked⟩ := facts
  obtain ⟨event, member, isReturn, isThread⟩ := RuntimeEvent.of_returns returns
  refine ⟨pool, event, perform_runtime plainAnswers_foreign performed, member,
    isReturn, ?_, quiet, leaked⟩
  rw [isThread]
  exact handlerRun_runs performed

end Tubo
