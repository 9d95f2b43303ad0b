import Tubo.Runtime.Serve

/-!
# The runtime tree

Package `internal/runtime`, files `session.go` and `ownership.go`: a
`NodeRuntime` owns `PipeRuntime`s, each of them owns a registry of sessions, and
a session owns one carrier and the connection to its target.

The state is shared by many goroutines, and every access to it is made under a
lock, through an atomic value, a channel or a context.  Each such access is one
command here, so that everything that can happen between two of them can happen
in the model.  A receive from a channel, or a wait for a group of goroutines, is
a command that has no response until it may proceed.

A channel that is only ever closed is represented by the number of times it was
closed: a receive proceeds once it is closed, and to close it again would be a
panic.  Pointers are positions in the lists of all objects created so far.
-/

namespace Tubo

abbrev SessionRef := ℕ
abbrev RuntimeRef := ℕ
abbrev CarrierRef := ℕ
abbrev TimerRef := ℕ

/-- A terminal action on a carrier. -/
inductive Terminal
  | close
  | reset
  deriving DecidableEq, Repr

/-- The two goroutines of a pump. -/
inductive Direction
  | carrierToTarget
  | targetToCarrier
  deriving DecidableEq, Repr

/-- The life of such a goroutine; at its end it has set `cleanA` or `cleanB`. -/
inductive Goroutine
  | absent
  | created
  | running
  | ended (clean : Bool)
  deriving DecidableEq, Repr

/-- `sessionStopResources`; `workDone` is the one of the session. -/
structure StopResources where
  active : Option CarrierRef
  target : Bool
  deriving DecidableEq, Repr

/-- `sessionPump`.  Its context is cancelled if `cancelled` is set or the context
of its runtime is.  The last five fields record what happens around the session:
the goroutine that `requestStop` created and that has not started, the
goroutines of the pump, and what was done to the carriers and to the target. -/
structure SessionPump where
  sessionID : GoString
  runtime : RuntimeRef
  target : Bool
  activeCarrier : Option CarrierRef := none
  cancelled : Bool := false
  stopping : Bool := false
  workCount : ℤ := 0
  workClosed : Bool := false
  workDone : ℕ := 0
  stopDone : ℕ := 0
  completedCleanly : Bool := false
  forked : Option StopResources := none
  goroutines : Direction → Goroutine := fun _ => .absent
  terminals : List (CarrierRef × Terminal) := []
  targetCloses : ℕ := 0

/-! ## One session -/

/-- An access to a session. -/
inductive SessionCommand
  | setActiveCarrier (carrier : CarrierRef)
  | admitWork
  | finishWork
  | beginStop
  | go (resources : StopResources)
  | started
  | cancel
  | loadCompletedCleanly
  | terminate (carrier : CarrierRef) (action : Terminal)
  | closeTarget
  | awaitWorkDone
  | closeStopDone
  | awaitStopDone
  | activeCarrier
  | launch
  | startDirection (direction : Direction)
  | copy (direction : Direction)
  | endDirection (direction : Direction) (clean : Bool)
  | awaitDirections
  | storeCompletedCleanly (clean : Bool)

/-- What an access returns; the result of `finishWork` is whether it returns
instead of panicking. -/
@[reducible]
def SessionCommand.Response : SessionCommand → Type
  | .setActiveCarrier _ => Bool
  | .admitWork => Bool
  | .finishWork => Bool
  | .beginStop => Option StopResources
  | .go _ => Unit
  | .started => StopResources
  | .cancel => Unit
  | .loadCompletedCleanly => Bool
  | .terminate .. => Unit
  | .closeTarget => Unit
  | .awaitWorkDone => Unit
  | .closeStopDone => Unit
  | .awaitStopDone => Unit
  | .activeCarrier => Option CarrierRef
  | .launch => Unit
  | .startDirection _ => Unit
  | .copy _ => Bool
  | .endDirection .. => Unit
  | .awaitDirections => Bool × Bool
  | .storeCompletedCleanly _ => Unit

namespace SessionPump

/-- `closeWorkDoneLocked`. -/
def closeWorkDoneLocked (sp : SessionPump) : SessionPump :=
  if sp.stopping ∧ sp.workCount = 0 ∧ ¬sp.workClosed then
    { sp with workClosed := true, workDone := sp.workDone + 1 }
  else sp

/-- The part of `finishWork` after the counter was decremented. -/
def finishWork (sp : SessionPump) : Bool × SessionPump :=
  let finished := { sp with workCount := sp.workCount - 1 }
  if finished.workCount < 0 then (false, finished)
  else (true, finished.closeWorkDoneLocked)

/-- `beginStop`. -/
def beginStop (sp : SessionPump) : Option StopResources × SessionPump :=
  if sp.stopping then (none, sp)
  else
    (some ⟨sp.activeCarrier, sp.target⟩,
      { sp with stopping := true, activeCarrier := none }.closeWorkDoneLocked)

/-- `closeWorkDoneLocked` changes only its own two fields. -/
theorem closeWorkDoneLocked_eq (sp : SessionPump) : sp.closeWorkDoneLocked =
      { sp with
        workClosed := sp.closeWorkDoneLocked.workClosed,
        workDone := sp.closeWorkDoneLocked.workDone } := by
  unfold closeWorkDoneLocked
  split <;> rfl

/-- `finishWork` changes only the counter, and perhaps `workDone`. -/
theorem finishWork_eq (sp : SessionPump) : sp.finishWork.2 =
      { sp with
        workCount := sp.workCount - 1,
        workClosed := sp.finishWork.2.workClosed,
        workDone := sp.finishWork.2.workDone } := by
  unfold finishWork
  dsimp only
  split
  · rfl
  · rw [closeWorkDoneLocked_eq]

/-- `beginStop` refuses a session that stops, and takes what another one
holds. -/
theorem beginStop_cases (sp : SessionPump) : sp.stopping = true ∧ sp.beginStop = (none, sp) ∨
      sp.stopping = false ∧ sp.beginStop = (some ⟨sp.activeCarrier, sp.target⟩,
          { sp with
            stopping := true, activeCarrier := none,
            workClosed := sp.beginStop.2.workClosed,
            workDone := sp.beginStop.2.workDone }) := by
  grind [closeWorkDoneLocked_eq, beginStop]

end SessionPump

/-- The effect of an access.  `done` says that the context of the session is seen
to be cancelled, and `clean` how a copy ends. -/
def SessionCommand.effect (done clean : Bool) :
    (c : SessionCommand) → SessionPump → Option (c.Response × SessionPump)
  | .setActiveCarrier carrier, sp =>
    if sp.stopping || done then some (false, sp)
    else some (true, { sp with activeCarrier := some carrier })
  | .admitWork, sp =>
    if sp.stopping || done then some (false, sp)
    else some (true, { sp with workCount := sp.workCount + 1 })
  | .finishWork, sp => some sp.finishWork
  | .beginStop, sp => some sp.beginStop
  | .go resources, sp => some ((), { sp with forked := some resources })
  | .started, sp =>
    sp.forked.map fun resources => (resources, { sp with forked := none })
  | .cancel, sp => some ((), { sp with cancelled := true })
  | .loadCompletedCleanly, sp => some (sp.completedCleanly, sp)
  | .terminate carrier action, sp =>
    some ((), { sp with terminals := sp.terminals ++ [(carrier, action)] })
  | .closeTarget, sp =>
    some ((), { sp with targetCloses := sp.targetCloses + 1 })
  | .awaitWorkDone, sp => if 0 < sp.workDone then some ((), sp) else none
  | .closeStopDone, sp => some ((), { sp with stopDone := sp.stopDone + 1 })
  | .awaitStopDone, sp => if 0 < sp.stopDone then some ((), sp) else none
  | .activeCarrier, sp => some (sp.activeCarrier, sp)
  | .launch, sp => some ((), { sp with goroutines := fun _ => .created })
  | .startDirection direction, sp =>
    if sp.goroutines direction = .created then
      some ((), { sp with
        goroutines := Function.update sp.goroutines direction .running })
    else none
  | .copy _, sp => some (clean, sp)
  | .endDirection direction result, sp =>
    some ((), { sp with
      goroutines := Function.update sp.goroutines direction (.ended result) })
  | .awaitDirections, sp =>
    match sp.goroutines .carrierToTarget, sp.goroutines .targetToCarrier with
    | .ended cleanA, .ended cleanB => some ((cleanA, cleanB), sp)
    | _, _ => none
  | .storeCompletedCleanly result, sp =>
    some ((), { sp with completedCleanly := result })

/-! ## The tree -/

/-- `PipeRuntime` with its `sessionRegistry`. -/
structure PipeRuntime where
  closed : Bool := false
  cancelled : Bool := false
  registryClosed : Bool := false
  registry : List (GoString × SessionRef) := []
  done : ℕ := 0

/-- `NodeRuntime`; `pipes` are the runtimes it still owns. -/
structure NodeRuntime where
  closed : Bool := false
  cancelled : Bool := false
  pipes : List RuntimeRef := []
  done : ℕ := 0

/-- Whether a timer is still to fire, and how far its function has come. -/
inductive TimerStatus
  | armed
  | stopped
  | fired
  | ran
  deriving DecidableEq, Repr

/-- A timer of `time.AfterFunc`: its function stops a session, or it closes the
target of a stream that has no session yet. -/
structure Timer where
  deadline : Time
  session : Option SessionRef
  status : TimerStatus := .armed

/-- Everything that the goroutines of a process share: the tree, the clock, the
timers, and what the stream handlers themselves did to their streams. -/
structure Tree where
  node : NodeRuntime := {}
  runtimes : List PipeRuntime := []
  sessions : List SessionPump := []
  clock : Time := .zero
  timers : List Timer := []
  streams : List (CarrierRef × Terminal) := []

/-- An access to the tree.  What `serve` does besides is left to the
environment. -/
inductive RuntimeCommand
  | session (ref : SessionRef) (command : SessionCommand)
  | newSession (runtime : RuntimeRef) (sessionID : GoString) (target : Bool)
  | remove (ref : SessionRef)
  | newPipeRuntime
  | closePipe (runtime : RuntimeRef)
  | closeRegistry (runtime : RuntimeRef)
  | removePipe (runtime : RuntimeRef)
  | closePipeDone (runtime : RuntimeRef)
  | awaitPipeDone (runtime : RuntimeRef)
  | closeNode
  | closeNodeDone
  | awaitNodeDone
  | awaitNodeCancelled
  | cancelParent
  | armTimer (deadline : Time) (session : Option SessionRef)
  | stopTimer (timer : TimerRef)
  | fire (timer : TimerRef)
  | callbackRan (timer : TimerRef)
  | tick (now : Time)
  | stream (carrier : CarrierRef) (action : Terminal)
  | serve (command : ServeCommand)

/-- What an access returns. -/
@[reducible]
def RuntimeCommand.Response : RuntimeCommand → Type
  | .session _ command => command.Response
  | .newSession .. => Except GoError SessionRef
  | .remove _ => Unit
  | .newPipeRuntime => Except GoError RuntimeRef
  | .closePipe _ => Bool
  | .closeRegistry _ => List SessionRef
  | .removePipe _ => Unit
  | .closePipeDone _ => Unit
  | .awaitPipeDone _ => Unit
  | .closeNode => Option (List RuntimeRef)
  | .closeNodeDone => Unit
  | .awaitNodeDone => Unit
  | .awaitNodeCancelled => Unit
  | .cancelParent => Unit
  | .armTimer .. => TimerRef
  | .stopTimer _ => Unit
  | .fire _ => Option SessionRef
  | .callbackRan _ => Unit
  | .tick _ => Unit
  | .stream .. => Unit
  | .serve command => command.Response

/-- An error of the stream or of the random source is not the error by which
`serve` itself tells that it has transferred the stream. -/
def ServeCommand.Foreign : (c : ServeCommand) → c.Response → Prop
  | .readHello, .error error => ¬error.is errInitialCarrierTransferred
  | .writeServerHello _, .error error => ¬error.is errInitialCarrierTransferred
  | .readOpen, .error error => ¬error.is errInitialCarrierTransferred
  | .writeResult _, .error error => ¬error.is errInitialCarrierTransferred
  | .randomSession, .error error => ¬error.is errInitialCarrierTransferred
  | _, _ => True

def errRuntimeClosed : GoError := .sentinel (str "runtime closed")
def errDuplicateSessionID : GoError := .sentinel (str "duplicate session ID")
def errInvalidSessionID : GoError := .sentinel (str "invalid session ID")

namespace Tree

/-- `p.ctx.Err() != nil`.  A cancellation reaches the contexts below it one after
the other, so the one of the node may or may not be `seen` already. -/
def runtimeDone (seen : Bool) (tree : Tree) (runtime : PipeRuntime) : Bool :=
  runtime.cancelled || (seen && tree.node.cancelled)

/-- `sp.ctx.Err() != nil`. -/
def sessionDone (seen : Bool) (tree : Tree) (sp : SessionPump) : Bool :=
  sp.cancelled || (seen && (tree.node.cancelled ||
    tree.runtimes[sp.runtime]?.any (·.cancelled)))

/-- Change a runtime. -/
def setRuntime (tree : Tree) (ref : RuntimeRef) (runtime : PipeRuntime) : Tree :=
  { tree with runtimes := tree.runtimes.set ref runtime }

/-- Change a session. -/
def setSession (tree : Tree) (ref : SessionRef) (sp : SessionPump) : Tree :=
  { tree with sessions := tree.sessions.set ref sp }

/-- Change the status of a timer. -/
def setTimer (tree : Tree) (ref : TimerRef) (timer : Timer) (status : TimerStatus) : Tree :=
  { tree with timers := tree.timers.set ref { timer with status } }

/-- `NewSession` with `newSessionPump` and `register`. -/
def newSession (seen : Bool) (tree : Tree) (ref : RuntimeRef)
    (sessionID : GoString) (target : Bool) : Option (Except GoError SessionRef × Tree) :=
  tree.runtimes[ref]?.map fun runtime =>
    if runtime.closed || tree.runtimeDone seen runtime then
      (.error errRuntimeClosed, tree)
    else if sessionID = [] then (.error errInvalidSessionID, tree)
    else if runtime.registryClosed then (.error errRuntimeClosed, tree)
    else if runtime.registry.any (·.1 == sessionID) then
      (.error errDuplicateSessionID, tree)
    else
      let created := tree.sessions.length
      (.ok created,
        { tree.setRuntime ref { runtime with
            registry := (sessionID, created) :: runtime.registry } with
          sessions := tree.sessions ++ [{ sessionID, runtime := ref, target }] })

/-- `remove`. -/
def remove (tree : Tree) (ref : SessionRef) : Option (Unit × Tree) :=
  tree.sessions[ref]?.bind fun sp =>
    tree.runtimes[sp.runtime]?.map fun runtime =>
      ((), tree.setRuntime sp.runtime { runtime with
        registry := runtime.registry.filter (· != (sp.sessionID, ref)) })

/-- The first part of `PipeRuntime.Close`: whether this call closes the
runtime. -/
def closePipe (tree : Tree) (ref : RuntimeRef) : Option (Bool × Tree) :=
  tree.runtimes[ref]?.map fun runtime =>
    if runtime.closed then (false, tree)
    else
      (true, tree.setRuntime ref { runtime with closed := true, cancelled := true })

/-- `sessionRegistry.close`. -/
def closeRegistry (tree : Tree) (ref : RuntimeRef) : Option (List SessionRef × Tree) :=
  tree.runtimes[ref]?.map fun runtime =>
    if runtime.registryClosed then ([], tree)
    else
      (runtime.registry.map (·.2), tree.setRuntime ref
        { runtime with registryClosed := true, registry := [] })

/-- `NewPipeRuntime`. -/
def newPipeRuntime (tree : Tree) : Except GoError RuntimeRef × Tree :=
  if tree.node.closed || tree.node.cancelled then
    (.error errRuntimeClosed, tree)
  else
    let created := tree.runtimes.length
    (.ok created, { tree with
      node := { tree.node with pipes := created :: tree.node.pipes },
      runtimes := tree.runtimes ++ [{}] })

/-- The part of `NodeRuntime.Close` under its lock. -/
def closeNode (tree : Tree) : Option (List RuntimeRef) × Tree :=
  if tree.node.closed then (none, tree)
  else
    (some tree.node.pipes, { tree with
      node := { tree.node with closed := true, cancelled := true } })

/-- The effect of an access.  `choice` is whether a cancellation above has been
seen already, and how a copy ends. -/
def execute (choice : Bool) : (c : RuntimeCommand) → Tree → Option (c.Response × Tree)
  | .session ref command, tree =>
    tree.sessions[ref]?.bind fun sp =>
      (command.effect (tree.sessionDone choice sp) choice sp).map
        fun (response, changed) => (response, tree.setSession ref changed)
  | .newSession ref sessionID target, tree =>
    tree.newSession choice ref sessionID target
  | .remove ref, tree => tree.remove ref
  | .newPipeRuntime, tree => some tree.newPipeRuntime
  | .closePipe ref, tree => tree.closePipe ref
  | .closeRegistry ref, tree => tree.closeRegistry ref
  | .removePipe ref, tree =>
    some ((), { tree with
      node := { tree.node with pipes := tree.node.pipes.filter (· != ref) } })
  | .closePipeDone ref, tree =>
    tree.runtimes[ref]?.map fun runtime =>
      ((), tree.setRuntime ref { runtime with done := runtime.done + 1 })
  | .awaitPipeDone ref, tree =>
    if tree.runtimes[ref]?.any (0 < ·.done) then some ((), tree) else none
  | .closeNode, tree => some tree.closeNode
  | .closeNodeDone, tree =>
    some ((), { tree with
      node := { tree.node with done := tree.node.done + 1 } })
  | .awaitNodeDone, tree =>
    if 0 < tree.node.done then some ((), tree) else none
  | .awaitNodeCancelled, tree =>
    if tree.node.cancelled then some ((), tree) else none
  | .cancelParent, tree =>
    some ((), { tree with node := { tree.node with cancelled := true } })
  | .armTimer deadline session, tree =>
    some (tree.timers.length, { tree with timers := tree.timers ++ [{ deadline, session }] })
  | .stopTimer ref, tree =>
    tree.timers[ref]?.map fun timer =>
      ((), if timer.status = .armed then tree.setTimer ref timer .stopped
        else tree)
  | .fire ref, tree =>
    tree.timers[ref]?.bind fun timer =>
      if timer.status = .armed ∧ ¬timer.deadline.after tree.clock then
        some (timer.session, tree.setTimer ref timer .fired)
      else none
  | .callbackRan ref, tree =>
    tree.timers[ref]?.map fun timer => ((), tree.setTimer ref timer .ran)
  | .tick now, tree =>
    if tree.clock.after now then none
    else some ((), { tree with clock := now })
  | .stream carrier action, tree =>
    some ((), { tree with streams := tree.streams ++ [(carrier, action)] })
  | .serve _, _ => none

/-- The effect of an access, for every choice; what `serve` does besides leaves
the tree alone and is answered by others. -/
def Exec : (c : RuntimeCommand) → Tree → c.Response → Tree → Prop
  | .serve command, tree, response, after =>
    after = tree ∧ command.Foreign response
  | c, tree, response, after =>
    ∃ choice, execute choice c tree = some (response, after)

/-! ### What an access does -/

section Inversion

variable {tree after : Tree}

theorem Exec.session_inv {ref : SessionRef} {command : SessionCommand} {response : command.Response}
    (exec : Exec (.session ref command) tree response after) :
    ∃ choice sp changed, tree.sessions[ref]? = some sp ∧
      command.effect (tree.sessionDone choice sp) choice sp = some (response, changed) ∧
      after = tree.setSession ref changed := by
  obtain ⟨choice, executed⟩ := exec
  simp only [execute, Option.bind_eq_some_iff, Option.map_eq_some_iff] at executed
  grind

variable {ref : RuntimeRef} {response : Unit}

/-- A session is created in a runtime that nobody has closed, or nothing
happens. -/
theorem Exec.newSession_inv {sessionID : GoString}
    {target : Bool} {response : Except GoError SessionRef}
    (exec : Exec (.newSession ref sessionID target) tree response after) :
    (∃ error, response = .error error ∧ after = tree) ∨
      ∃ runtime, tree.runtimes[ref]? = some runtime ∧
        runtime.closed = false ∧ runtime.registryClosed = false ∧
        response = .ok tree.sessions.length ∧
        after = { tree.setRuntime ref { runtime with
            registry := (sessionID, tree.sessions.length) ::
              runtime.registry } with
          sessions := tree.sessions ++ [{ sessionID, runtime := ref, target }] }
      := by
  obtain ⟨choice, executed⟩ := exec
  simp only [execute, newSession, Option.map_eq_some_iff] at executed
  obtain ⟨runtime, found, executed⟩ := executed
  split at executed
  · cases executed
    exact .inl ⟨_, rfl, rfl⟩
  split at executed
  · cases executed
    exact .inl ⟨_, rfl, rfl⟩
  split at executed
  · cases executed
    exact .inl ⟨_, rfl, rfl⟩
  grind

theorem Exec.remove_inv {ref : SessionRef} (exec : Exec (.remove ref) tree response after) :
    ∃ sp runtime, tree.sessions[ref]? = some sp ∧ tree.runtimes[sp.runtime]? = some runtime ∧
      after = tree.setRuntime sp.runtime { runtime with
        registry :=
          runtime.registry.filter (· != (sp.sessionID, ref)) } := by
  obtain ⟨choice, executed⟩ := exec
  grind [execute, remove]

theorem Exec.newPipeRuntime_inv {response : Except GoError RuntimeRef}
    (exec : Exec .newPipeRuntime tree response after) :
    (∃ error, response = .error error ∧ after = tree) ∨
      tree.node.closed = false ∧ response = .ok tree.runtimes.length ∧
        after = { tree with
          node := { tree.node with
            pipes := tree.runtimes.length :: tree.node.pipes },
          runtimes := tree.runtimes ++ [{}] } := by
  obtain ⟨choice, executed⟩ := exec
  grind [execute, newPipeRuntime]

theorem Exec.closePipe_inv {first : Bool} (exec : Exec (.closePipe ref) tree first after) :
    ∃ runtime, tree.runtimes[ref]? = some runtime ∧
      (runtime.closed = true ∧ first = false ∧ after = tree ∨
        runtime.closed = false ∧ first = true ∧ after = tree.setRuntime ref
            { runtime with closed := true, cancelled := true }) := by
  obtain ⟨choice, executed⟩ := exec
  simp only [execute, closePipe, Option.map_eq_some_iff] at executed
  grind

theorem Exec.closeRegistry_inv {sessions : List SessionRef}
    (exec : Exec (.closeRegistry ref) tree sessions after) :
    ∃ runtime, tree.runtimes[ref]? = some runtime ∧
      (runtime.registryClosed = true ∧ sessions = [] ∧ after = tree ∨
        runtime.registryClosed = false ∧ sessions = runtime.registry.map (·.2) ∧
          after = tree.setRuntime ref { runtime with registryClosed := true, registry := [] }) := by
  obtain ⟨choice, executed⟩ := exec
  simp only [execute, closeRegistry, Option.map_eq_some_iff] at executed
  grind

theorem Exec.closePipeDone_inv (exec : Exec (.closePipeDone ref) tree response after) :
    ∃ runtime, tree.runtimes[ref]? = some runtime ∧
      after = tree.setRuntime ref { runtime with done := runtime.done + 1 } := by
  obtain ⟨choice, executed⟩ := exec
  grind [execute]

theorem Exec.awaitPipeDone_inv (exec : Exec (.awaitPipeDone ref) tree response after) :
    (∃ runtime, tree.runtimes[ref]? = some runtime ∧ 0 < runtime.done) ∧ after = tree := by
  obtain ⟨choice, executed⟩ := exec
  grind [execute]

theorem Exec.closeNode_inv {response : Option (List RuntimeRef)}
    (exec : Exec .closeNode tree response after) :
    tree.node.closed = true ∧ response = none ∧ after = tree ∨
      tree.node.closed = false ∧ response = some tree.node.pipes ∧
        after = { tree with
          node := { tree.node with closed := true, cancelled := true } } := by
  obtain ⟨choice, executed⟩ := exec
  grind [execute, closeNode]

theorem Exec.awaitNodeDone_inv (exec : Exec .awaitNodeDone tree response after) :
    0 < tree.node.done ∧ after = tree := by
  obtain ⟨choice, executed⟩ := exec
  grind [execute]

theorem Exec.stopTimer_inv {ref : TimerRef} (exec : Exec (.stopTimer ref) tree response after) :
    ∃ timer, tree.timers[ref]? = some timer ∧
      (timer.status = .armed ∧ after = tree.setTimer ref timer .stopped ∨
        timer.status ≠ .armed ∧ after = tree) := by
  obtain ⟨choice, executed⟩ := exec
  simp only [execute, Option.map_eq_some_iff] at executed
  grind

theorem Exec.fire_inv {ref : TimerRef} {response : Option SessionRef}
    (exec : Exec (.fire ref) tree response after) :
    ∃ timer, tree.timers[ref]? = some timer ∧ timer.status = .armed ∧
      ¬timer.deadline.after tree.clock ∧ response = timer.session ∧
      after = tree.setTimer ref timer .fired := by
  obtain ⟨choice, executed⟩ := exec
  grind [execute]

theorem Exec.callbackRan_inv {ref : TimerRef} (exec : Exec (.callbackRan ref) tree response after) :
    ∃ timer, tree.timers[ref]? = some timer ∧ after = tree.setTimer ref timer .ran := by
  obtain ⟨choice, executed⟩ := exec
  grind [execute]

theorem Exec.tick_inv {now : Time} (exec : Exec (.tick now) tree response after) :
    ¬tree.clock.after now ∧ after = { tree with clock := now } := by
  obtain ⟨choice, executed⟩ := exec
  grind [execute]

theorem Exec.awaitNodeCancelled_inv (exec : Exec .awaitNodeCancelled tree response after) :
    tree.node.cancelled = true ∧ after = tree := by
  obtain ⟨choice, executed⟩ := exec
  grind [execute]

/-- The parts of a tree. -/
inductive Part
  | node
  | runtimes
  | sessions
  | clock
  | timers
  | streams
  deriving DecidableEq, Repr

/-- The parts of the tree that an access may change. -/
def changed : RuntimeCommand → List Part
  | .session .. => [.sessions]
  | .newSession .. => [.runtimes, .sessions]
  | .remove _ | .closePipe _ | .closeRegistry _ | .closePipeDone _ => [.runtimes]
  | .newPipeRuntime => [.node, .runtimes]
  | .removePipe _ | .closeNode | .closeNodeDone | .cancelParent => [.node]
  | .armTimer .. | .stopTimer _ | .fire _ | .callbackRan _ => [.timers]
  | .tick _ => [.clock]
  | .stream .. => [.streams]
  | .awaitPipeDone _ | .awaitNodeDone | .awaitNodeCancelled | .serve _ => []

/-- Two trees agree except in some parts. -/
structure SameBut (parts : List Part) (tree after : Tree) : Prop where
  node : .node ∉ parts → after.node = tree.node
  runtimes : .runtimes ∉ parts → after.runtimes = tree.runtimes
  sessions : .sessions ∉ parts → after.sessions = tree.sessions
  clock : .clock ∉ parts → after.clock = tree.clock
  timers : .timers ∉ parts → after.timers = tree.timers
  streams : .streams ∉ parts → after.streams = tree.streams

theorem SameBut.refl (parts : List Part) (tree : Tree) : SameBut parts tree tree :=
  ⟨fun _ => rfl, fun _ => rfl, fun _ => rfl, fun _ => rfl, fun _ => rfl, fun _ => rfl⟩

/-- **Frame.**  An access leaves all other parts alone. -/
theorem Exec.frame {c : RuntimeCommand} {response : c.Response}
    (exec : Exec c tree response after) : SameBut (changed c) tree after := by
  cases c with
  | session ref command =>
    obtain ⟨choice, sp, changed, -, -, rfl⟩ := exec.session_inv
    constructor <;> simp [Tree.changed, setSession]
  | newSession ref sessionID target =>
    rcases exec.newSession_inv with ⟨error, -, rfl⟩ | ⟨runtime, -, -, -, -, rfl⟩
    · exact SameBut.refl _ _
    · constructor <;> simp [changed, setRuntime]
  | remove ref =>
    obtain ⟨sp, runtime, -, -, rfl⟩ := exec.remove_inv
    constructor <;> simp [changed, setRuntime]
  | newPipeRuntime =>
    rcases exec.newPipeRuntime_inv with ⟨error, -, rfl⟩ | ⟨-, -, rfl⟩
    · exact SameBut.refl _ _
    · constructor <;> simp [changed]
  | closePipe ref =>
    obtain ⟨runtime, -, ⟨-, -, rfl⟩ | ⟨-, -, rfl⟩⟩ := exec.closePipe_inv
    · exact SameBut.refl _ _
    · constructor <;> simp [changed, setRuntime]
  | closeRegistry ref =>
    obtain ⟨runtime, -, ⟨-, -, rfl⟩ | ⟨-, -, rfl⟩⟩ := exec.closeRegistry_inv
    · exact SameBut.refl _ _
    · constructor <;> simp [changed, setRuntime]
  | closePipeDone ref =>
    obtain ⟨runtime, -, rfl⟩ := exec.closePipeDone_inv
    constructor <;> simp [changed, setRuntime]
  | awaitPipeDone ref =>
    obtain ⟨-, rfl⟩ := exec.awaitPipeDone_inv
    exact SameBut.refl _ _
  | closeNode =>
    rcases exec.closeNode_inv with ⟨-, -, rfl⟩ | ⟨-, -, rfl⟩
    · exact SameBut.refl _ _
    · constructor <;> simp [changed]
  | awaitNodeDone =>
    obtain ⟨-, rfl⟩ := exec.awaitNodeDone_inv
    exact SameBut.refl _ _
  | awaitNodeCancelled =>
    obtain ⟨-, rfl⟩ := exec.awaitNodeCancelled_inv
    exact SameBut.refl _ _
  | stopTimer ref =>
    obtain ⟨timer, -, ⟨-, rfl⟩ | ⟨-, rfl⟩⟩ := exec.stopTimer_inv
    · constructor <;> simp [changed, setTimer]
    · exact SameBut.refl _ _
  | fire ref =>
    obtain ⟨timer, -, -, -, -, rfl⟩ := exec.fire_inv
    constructor <;> simp [changed, setTimer]
  | callbackRan ref =>
    obtain ⟨timer, -, rfl⟩ := exec.callbackRan_inv
    constructor <;> simp [changed, setTimer]
  | tick now =>
    obtain ⟨-, rfl⟩ := exec.tick_inv
    constructor <;> simp [changed]
  | serve command =>
    obtain ⟨rfl, -⟩ := exec
    exact SameBut.refl _ _
  | removePipe | closeNodeDone | cancelParent | armTimer | stream =>
    obtain ⟨choice, executed⟩ := exec
    cases executed
    constructor <;> simp [changed]

end Inversion

end Tree

end Tubo
