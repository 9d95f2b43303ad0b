import Tubo.Runtime.Session

/-!
# Nothing is undone

Whatever the goroutines of a process do, an object that exists stays, a flag
that is set stays set, a channel that is closed stays closed, and what was done
to a carrier or to a target stays done.  The relation `Tree.Grows` says so for
two states of the tree, and it orders all states of a history.
-/

namespace Tubo

open Concurrency

/-! ## One session -/

/-- A session later on. -/
structure SessionPump.Grows (sp later : SessionPump) : Prop where
  sessionID : later.sessionID = sp.sessionID
  runtime : later.runtime = sp.runtime
  target : later.target = sp.target
  stopping : sp.stopping = true → later.stopping = true
  cancelled : sp.cancelled = true → later.cancelled = true
  workDone : sp.workDone ≤ later.workDone
  stopDone : sp.stopDone ≤ later.stopDone
  terminals : sp.terminals <+: later.terminals
  targetCloses : sp.targetCloses ≤ later.targetCloses

namespace SessionPump

variable {sp later last : SessionPump}

theorem Grows.refl (sp : SessionPump) : sp.Grows sp :=
  ⟨rfl, rfl, rfl, id, id, le_rfl, le_rfl, List.prefix_rfl, le_rfl⟩

theorem Grows.trans (first : sp.Grows later) (second : later.Grows last) : sp.Grows last where
  sessionID := second.sessionID.trans first.sessionID
  runtime := second.runtime.trans first.runtime
  target := second.target.trans first.target
  stopping := second.stopping ∘ first.stopping
  cancelled := second.cancelled ∘ first.cancelled
  workDone := first.workDone.trans second.workDone
  stopDone := first.stopDone.trans second.stopDone
  terminals := first.terminals.trans second.terminals
  targetCloses := first.targetCloses.trans second.targetCloses

/-- A channel that is closed stays closed. -/
theorem workDone_le_closeWorkDoneLocked (sp : SessionPump) :
    sp.workDone ≤ sp.closeWorkDoneLocked.workDone := by
  grind [closeWorkDoneLocked]

theorem grows_finishWork (sp : SessionPump) : sp.Grows sp.finishWork.2 := by
  have grows : sp.workDone ≤ sp.finishWork.2.workDone := by
    unfold finishWork
    dsimp only
    split
    · exact le_rfl
    · exact workDone_le_closeWorkDoneLocked { sp with workCount := sp.workCount - 1 }
  rw [finishWork_eq]
  exact ⟨rfl, rfl, rfl, id, id, grows, le_rfl, List.prefix_rfl, le_rfl⟩

theorem grows_beginStop (sp : SessionPump) : sp.Grows sp.beginStop.2 := by
  have grows : sp.workDone ≤ sp.beginStop.2.workDone := by
    unfold beginStop
    split
    · exact le_rfl
    · exact workDone_le_closeWorkDoneLocked { sp with stopping := true, activeCarrier := none }
  rcases sp.beginStop_cases with ⟨-, refused⟩ | ⟨-, taken⟩
  · rw [refused]
    exact Grows.refl sp
  · rw [taken]
    exact ⟨rfl, rfl, rfl, fun _ => rfl, id, grows, le_rfl, List.prefix_rfl, le_rfl⟩

end SessionPump

theorem SessionCommand.effect_grows {c : SessionCommand} {done clean : Bool}
    {sp changed : SessionPump} {response : c.Response}
    (effect : c.effect done clean sp = some (response, changed)) : sp.Grows changed := by
  cases c with
  | setActiveCarrier | admitWork =>
    simp only [SessionCommand.effect] at effect
    split at effect <;> cases effect
    · exact SessionPump.Grows.refl sp
    · exact ⟨rfl, rfl, rfl, id, id, le_rfl, le_rfl, List.prefix_rfl, le_rfl⟩
  | finishWork =>
    obtain rfl : sp.finishWork.2 = changed :=
      congrArg Prod.snd (Option.some.inj effect)
    exact sp.grows_finishWork
  | beginStop =>
    obtain rfl : sp.beginStop.2 = changed :=
      congrArg Prod.snd (Option.some.inj effect)
    exact sp.grows_beginStop
  | started =>
    simp only [SessionCommand.effect, Option.map_eq_some_iff] at effect
    obtain ⟨resources, -, same⟩ := effect
    cases same
    exact ⟨rfl, rfl, rfl, id, id, le_rfl, le_rfl, List.prefix_rfl, le_rfl⟩
  | cancel =>
    cases effect
    exact ⟨rfl, rfl, rfl, id, fun _ => rfl, le_rfl, le_rfl, List.prefix_rfl, le_rfl⟩
  | terminate carrier action =>
    cases effect
    exact ⟨rfl, rfl, rfl, id, id, le_rfl, le_rfl, List.prefix_append _ _, le_rfl⟩
  | closeTarget =>
    cases effect
    exact ⟨rfl, rfl, rfl, id, id, le_rfl, le_rfl, List.prefix_rfl, Nat.le_succ _⟩
  | closeStopDone =>
    cases effect
    exact ⟨rfl, rfl, rfl, id, id, le_rfl, Nat.le_succ _, List.prefix_rfl, le_rfl⟩
  | awaitWorkDone | awaitStopDone | startDirection | awaitDirections =>
    simp only [SessionCommand.effect] at effect
    split at effect <;> cases effect
    exact ⟨rfl, rfl, rfl, id, id, le_rfl, le_rfl, List.prefix_rfl, le_rfl⟩
  | go | loadCompletedCleanly | activeCarrier | launch | copy | endDirection
  | storeCompletedCleanly =>
    cases effect
    exact ⟨rfl, rfl, rfl, id, id, le_rfl, le_rfl, List.prefix_rfl, le_rfl⟩

/-! ## The tree -/

/-- A runtime later on. -/
structure PipeRuntime.Grows (runtime later : PipeRuntime) : Prop where
  closed : runtime.closed = true → later.closed = true
  cancelled : runtime.cancelled = true → later.cancelled = true
  registryClosed : runtime.registryClosed = true → later.registryClosed = true
  done : runtime.done ≤ later.done

theorem PipeRuntime.Grows.refl (runtime : PipeRuntime) : runtime.Grows runtime :=
  ⟨id, id, id, le_rfl⟩

/-- The node later on. -/
structure NodeRuntime.Grows (node later : NodeRuntime) : Prop where
  closed : node.closed = true → later.closed = true
  cancelled : node.cancelled = true → later.cancelled = true
  done : node.done ≤ later.done

theorem NodeRuntime.Grows.refl (node : NodeRuntime) : node.Grows node :=
  ⟨id, id, le_rfl⟩

/-- A tree later on. -/
structure Tree.Grows (tree later : Tree) : Prop where
  node : tree.node.Grows later.node
  runtimes : ∀ (ref : RuntimeRef) (runtime : PipeRuntime), tree.runtimes[ref]? = some runtime →
    ∃ after, later.runtimes[ref]? = some after ∧ runtime.Grows after
  sessions : ∀ (ref : SessionRef) (sp : SessionPump), tree.sessions[ref]? = some sp →
    ∃ after, later.sessions[ref]? = some after ∧ sp.Grows after

namespace Tree

variable {tree later last : Tree}

theorem Grows.refl (tree : Tree) : tree.Grows tree :=
  ⟨.refl _, fun _ runtime found => ⟨runtime, found, .refl _⟩,
    fun _ sp found => ⟨sp, found, .refl _⟩⟩

theorem Grows.trans (first : tree.Grows later) (second : later.Grows last) : tree.Grows last := by
  refine ⟨⟨second.node.closed ∘ first.node.closed, second.node.cancelled ∘ first.node.cancelled,
    first.node.done.trans second.node.done⟩, ?_, ?_⟩
  · intro ref runtime found
    obtain ⟨middle, foundMiddle, toMiddle⟩ := first.runtimes ref runtime found
    obtain ⟨final, foundFinal, toFinal⟩ :=
      second.runtimes ref middle foundMiddle
    exact ⟨final, foundFinal, toFinal.closed ∘ toMiddle.closed,
      toFinal.cancelled ∘ toMiddle.cancelled,
      toFinal.registryClosed ∘ toMiddle.registryClosed,
      toMiddle.done.trans toFinal.done⟩
  · intro ref sp found
    obtain ⟨middle, foundMiddle, toMiddle⟩ := first.sessions ref sp found
    obtain ⟨final, foundFinal, toFinal⟩ :=
      second.sessions ref middle foundMiddle
    exact ⟨final, foundFinal, toMiddle.trans toFinal⟩

/-- A list in which one element was replaced by a later one. -/
theorem set_grows {α : Type} {grows : α → α → Prop} (refl : ∀ a, grows a a)
    {objects : List α} {ref : ℕ} {before after : α}
    (found : objects[ref]? = some before) (grew : grows before after)
    (other : ℕ) (object : α) (here : objects[other]? = some object) :
    ∃ late, (objects.set ref after)[other]? = some late ∧ grows object late := by
  grind

/-- A list at whose end something was put. -/
theorem append_grows {α : Type} {grows : α → α → Prop} (refl : ∀ a, grows a a)
    {objects added : List α} (other : ℕ) (object : α) (here : objects[other]? = some object) :
    ∃ late, (objects ++ added)[other]? = some late ∧ grows object late := by
  grind

theorem Grows.set_runtime {ref : RuntimeRef} {runtime after : PipeRuntime}
    (found : tree.runtimes[ref]? = some runtime) (grew : runtime.Grows after) :
    tree.Grows (tree.setRuntime ref after) :=
  ⟨.refl _, set_grows PipeRuntime.Grows.refl found grew, fun _ sp here => ⟨sp, here, .refl _⟩⟩

/-- An access that changes none of these parts. -/
theorem Grows.of_same (node : later.node = tree.node) (runtimes : later.runtimes = tree.runtimes)
    (sessions : later.sessions = tree.sessions) : tree.Grows later := by
  refine ⟨?_, ?_, ?_⟩
  · rw [node]
    exact .refl _
  · rw [runtimes]
    exact (Grows.refl tree).runtimes
  · rw [sessions]
    exact (Grows.refl tree).sessions

/-- **Every access makes the tree grow.** -/
theorem Exec.grows {c : RuntimeCommand} {response : c.Response}
    (exec : Exec c tree response later) : tree.Grows later := by
  have frame := exec.frame
  cases c with
  | session ref command =>
    obtain ⟨choice, sp, changed, found, effect, rfl⟩ := exec.session_inv
    exact ⟨.refl _, fun _ runtime here => ⟨runtime, here, .refl _⟩,
      set_grows SessionPump.Grows.refl found (SessionCommand.effect_grows effect)⟩
  | newSession ref sessionID target =>
    rcases exec.newSession_inv with ⟨error, -, rfl⟩ |
      ⟨runtime, found, -, -, -, rfl⟩
    · exact Grows.refl _
    · exact ⟨.refl _, set_grows PipeRuntime.Grows.refl found
        ⟨id, id, id, le_rfl⟩, append_grows SessionPump.Grows.refl⟩
  | remove ref =>
    obtain ⟨sp, runtime, -, found, rfl⟩ := exec.remove_inv
    exact Grows.set_runtime found ⟨id, id, id, le_rfl⟩
  | newPipeRuntime =>
    rcases exec.newPipeRuntime_inv with ⟨error, -, rfl⟩ | ⟨-, -, rfl⟩
    · exact Grows.refl _
    · exact ⟨⟨id, id, le_rfl⟩, append_grows PipeRuntime.Grows.refl,
        fun _ sp here => ⟨sp, here, .refl _⟩⟩
  | closePipe ref =>
    obtain ⟨runtime, found, ⟨-, -, rfl⟩ | ⟨-, -, rfl⟩⟩ := exec.closePipe_inv
    · exact Grows.refl _
    · exact Grows.set_runtime found ⟨fun _ => rfl, fun _ => rfl, id, le_rfl⟩
  | closeRegistry ref =>
    obtain ⟨runtime, found, ⟨-, -, rfl⟩ | ⟨-, -, rfl⟩⟩ :=
      exec.closeRegistry_inv
    · exact Grows.refl _
    · exact Grows.set_runtime found ⟨id, id, fun _ => rfl, le_rfl⟩
  | closePipeDone ref =>
    obtain ⟨runtime, found, rfl⟩ := exec.closePipeDone_inv
    exact Grows.set_runtime found ⟨id, id, id, Nat.le_succ _⟩
  | closeNode =>
    rcases exec.closeNode_inv with ⟨-, -, rfl⟩ | ⟨-, -, rfl⟩
    · exact Grows.refl _
    · exact ⟨⟨fun _ => rfl, fun _ => rfl, le_rfl⟩, (Grows.refl tree).runtimes,
        (Grows.refl tree).sessions⟩
  | removePipe ref =>
    obtain ⟨choice, executed⟩ := exec
    cases executed
    exact ⟨⟨id, id, le_rfl⟩, (Grows.refl tree).runtimes, (Grows.refl tree).sessions⟩
  | closeNodeDone =>
    obtain ⟨choice, executed⟩ := exec
    cases executed
    exact ⟨⟨id, id, Nat.le_succ _⟩, (Grows.refl tree).runtimes, (Grows.refl tree).sessions⟩
  | cancelParent =>
    obtain ⟨choice, executed⟩ := exec
    cases executed
    exact ⟨⟨id, fun _ => rfl, le_rfl⟩, (Grows.refl tree).runtimes, (Grows.refl tree).sessions⟩
  | awaitPipeDone | awaitNodeDone | awaitNodeCancelled | armTimer | stopTimer
  | fire | callbackRan | tick | stream | serve =>
    grind [Grows.of_same, SameBut.node, SameBut.runtimes, SameBut.sessions, changed]

end Tree

/-- All states of a history grow. -/
theorem runtimeSystem_ordered {prim : Primitives} {pool : RuntimePool}
    (reachable : (runtimeSystem prim).Reachable {} pool) :
    System.Ordered Tree.Grows {} pool.toWorld :=
  reachable.ordered Tree.Grows.refl Tree.Grows.trans fun _ _ _ _ exec => Tree.Exec.grows exec

end Tubo
