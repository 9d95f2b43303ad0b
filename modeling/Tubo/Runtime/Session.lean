import Tubo.Concurrency.Protocol
import Tubo.Runtime.Tree

/-!
# Sessions, runtimes and stream handlers

Package `internal/runtime`: the functions of `session.go` and `ownership.go` as
programs over the accesses of `Runtime/Tree`, `tunnelServer.handle` of
`serve.go`, and the timers of `pipe.go`.

A `go` statement leaves its goroutine in the session; the goroutine is a thread
of its own that begins by taking it from there.  The handler is `serve` in which
the accesses to the session are carried out by the functions of this module.
-/

namespace Tubo

open Concurrency

abbrev RuntimeProgram (α : Type) :=
  Program RuntimeCommand RuntimeCommand.Response α

/-! ## Stopping a session -/

/-- The terminal action of `completeStop` on the carrier. -/
def terminateCarrier (ref : SessionRef) (resources : StopResources) : RuntimeProgram Unit :=
  match resources.active with
  | none => .done ()
  | some carrier =>
    .call (.session ref .loadCompletedCleanly) fun clean =>
      .call (.session ref (.terminate carrier (if clean then .close else .reset))) .done

/-- The close of the target in `completeStop`. -/
def terminateTarget (ref : SessionRef) (resources : StopResources) : RuntimeProgram Unit :=
  if resources.target then .call (.session ref .closeTarget) .done
  else .done ()

/-- `completeStop`. -/
def completeStop (ref : SessionRef) (resources : StopResources) : RuntimeProgram Unit :=
  .call (.session ref .cancel) fun _ =>
    (terminateCarrier ref resources).bind fun _ =>
      (terminateTarget ref resources).bind fun _ =>
        .call (.session ref .awaitWorkDone) fun _ =>
          .call (.remove ref) fun _ =>
            .call (.session ref .closeStopDone) .done

/-- `Stop`. -/
def stop (ref : SessionRef) : RuntimeProgram Unit :=
  .call (.session ref .beginStop) fun
    | none => .call (.session ref .awaitStopDone) .done
    | some resources => completeStop ref resources

/-- `requestStop`. -/
def requestStop (ref : SessionRef) : RuntimeProgram Unit :=
  .call (.session ref .beginStop) fun
    | none => .done ()
    | some resources => .call (.session ref (.go resources)) .done

/-- The goroutine that `requestStop` creates. -/
def requestedStop (ref : SessionRef) : RuntimeProgram Unit :=
  .call (.session ref .started) fun resources => completeStop ref resources

/-! ## The pump -/

/-- `carrierToTarget` or `targetToCarrier`: whether the direction ended
cleanly. -/
def copyDirection (ref : SessionRef) (direction : Direction) : RuntimeProgram Bool :=
  .call (.session ref (.copy direction)) fun clean =>
    if clean then .done true
    else (requestStop ref).bind fun _ => .done false

/-- The goroutine of a direction. -/
def pumpDirection (ref : SessionRef) (direction : Direction) : RuntimeProgram Unit :=
  .call (.session ref (.startDirection direction)) fun _ =>
    (copyDirection ref direction).bind fun clean =>
      .call (.session ref (.endDirection direction clean)) .done

/-- `pumpCarrier`. -/
def pumpCarrier (ref : SessionRef) : RuntimeProgram Unit :=
  .call (.session ref .activeCarrier) fun
    | none => requestStop ref
    | some _ =>
      .call (.session ref .launch) fun _ =>
        .call (.session ref .awaitDirections) fun (cleanA, cleanB) =>
          .call (.session ref (.storeCompletedCleanly (cleanA && cleanB))) .done

/-- `runServerSession` and `runClientSession`. -/
def runServerSession (ref : SessionRef) : RuntimeProgram Unit :=
  .call (.session ref .admitWork) fun admitted =>
    if admitted then
      (pumpCarrier ref).bind fun _ =>
        .call (.session ref .finishWork) fun _ => stop ref
    else .done ()

/-- Other work of a session, as `beginOutbound` admits it. -/
def sessionWork (ref : SessionRef) : RuntimeProgram Unit :=
  .call (.session ref .admitWork) fun admitted =>
    if admitted then .call (.session ref .finishWork) fun _ => .done ()
    else .done ()

/-! ## Runtimes -/

/-- The loop of `PipeRuntime.Close`. -/
def stopAll : List SessionRef → RuntimeProgram Unit
  | [] => .done ()
  | ref :: rest => (stop ref).bind fun _ => stopAll rest

/-- `PipeRuntime.Close`. -/
def closePipeRuntime (ref : RuntimeRef) : RuntimeProgram Unit :=
  .call (.closePipe ref) fun first =>
    if first then
      .call (.closeRegistry ref) fun sessions =>
        (stopAll sessions).bind fun _ =>
          .call (.removePipe ref) fun _ =>
            .call (.closePipeDone ref) .done
    else .call (.awaitPipeDone ref) .done

/-- The loop of `NodeRuntime.Close`. -/
def closeAll : List RuntimeRef → RuntimeProgram Unit
  | [] => .done ()
  | ref :: rest => (closePipeRuntime ref).bind fun _ => closeAll rest

/-- `NodeRuntime.Close`. -/
def closeNodeRuntime : RuntimeProgram Unit :=
  .call .closeNode fun
    | none => .call .awaitNodeDone .done
    | some pipes =>
      (closeAll pipes).bind fun _ => .call .closeNodeDone .done

/-- The goroutine of `NewNodeRuntime`. -/
def watchNode : RuntimeProgram Unit :=
  .call .awaitNodeCancelled fun _ => closeNodeRuntime

/-! ## Connections -/

/-- The end of a client connection: the session takes over the stream, or the
stream is closed. -/
def connectSession (runtime : RuntimeRef) (sessionID : GoString)
    (target : Bool) (carrier : CarrierRef) : RuntimeProgram Unit :=
  .call (.newSession runtime sessionID target) fun
    | .error _ => .call (.stream carrier .close) .done
    | .ok ref =>
      .call (.session ref (.setActiveCarrier carrier)) fun installed =>
        if installed then runServerSession ref
        else .call (.stream carrier .close) .done

/-- The variables of `serve` that name its session and its timer. -/
structure ServeLocals where
  session : Option SessionRef := none
  timer : Option TimerRef := none

/-- `authorizationTimer.Stop()`. -/
def stopAuthorizationTimer (locals : ServeLocals) : RuntimeProgram Unit :=
  match locals.timer with
  | none => .done ()
  | some timer => .call (.stopTimer timer) .done

/-- How `serve` on a stream carries out its accesses to the session and to the
timers: `NewSession`, `SetActiveCarrier`, `transferSessionAuthorizationTimer`
and `runServerSession`. -/
def serveAccess (runtime : RuntimeRef) (carrier : CarrierRef)
    (locals : ServeLocals) : (c : ServeCommand) →
    RuntimeProgram (c.Response × ServeLocals)
  | .armTimer expiresAt =>
    .call (.armTimer expiresAt none) fun timer =>
      .done ((), { locals with timer := some timer })
  | .stopTimer =>
    (stopAuthorizationTimer locals).bind fun _ => .done ((), locals)
  | .transferTimer expiresAt =>
    (stopAuthorizationTimer locals).bind fun _ =>
      .call (.armTimer expiresAt locals.session) fun timer =>
        .done ((), { locals with timer := some timer })
  | .newSession sessionID =>
    .call (.newSession runtime sessionID true) fun
      | .error error => .done (.error error, locals)
      | .ok ref => .done (.ok (), { locals with session := some ref })
  | .setActiveCarrier =>
    match locals.session with
    | none => .done (false, locals)
    | some ref =>
      .call (.session ref (.setActiveCarrier carrier)) fun installed =>
        .done (installed, locals)
  | .runServerSession =>
    match locals.session with
    | none => .done ((), locals)
    | some ref => (runServerSession ref).bind fun _ => .done ((), locals)
  | command => .call (.serve command) fun response => .done (response, locals)

/-- `handle`. -/
def handle (prim : Primitives) (server : TunnelServer) (runtime : RuntimeRef)
    (carrier : CarrierRef) : RuntimeProgram Unit :=
  ((serve prim server).elaborate (serveAccess runtime carrier) {}).bind fun
    | (.error error, _) =>
      if error.is errInitialCarrierTransferred then .done ()
      else .call (.stream carrier .reset) .done
    | (.ok (), _) => .call (.stream carrier .close) .done

/-- The goroutine of a timer. -/
def runTimer (timer : TimerRef) : RuntimeProgram Unit :=
  .call (.fire timer) fun
    | none => .call (.callbackRan timer) .done
    | some ref =>
      (stop ref).bind fun _ => .call (.callbackRan timer) .done

/-! ## The system -/

/-- What the goroutines of a process do. -/
inductive RuntimeJob
  | newPipeRuntime
  | closePipe (runtime : RuntimeRef)
  | closeNode
  | watchNode
  | cancelParent
  | connect (runtime : RuntimeRef) (sessionID : GoString) (target : Bool)
      (carrier : CarrierRef)
  | handle (server : TunnelServer) (runtime : RuntimeRef)
      (carrier : CarrierRef)
  | work (ref : SessionRef)
  | stop (ref : SessionRef)
  | requestStop (ref : SessionRef)
  | requestedStop (ref : SessionRef)
  | pump (ref : SessionRef) (direction : Direction)
  | timer (timer : TimerRef)
  | tick (now : Time)

/-- Their code. -/
def RuntimeJob.code (prim : Primitives) : RuntimeJob → RuntimeProgram Unit
  | .newPipeRuntime => .call .newPipeRuntime fun _ => .done ()
  | .closePipe runtime => closePipeRuntime runtime
  | .closeNode => closeNodeRuntime
  | .watchNode => Tubo.watchNode
  | .cancelParent => .call .cancelParent .done
  | .connect runtime sessionID target carrier =>
    connectSession runtime sessionID target carrier
  | .handle server runtime carrier => Tubo.handle prim server runtime carrier
  | .work ref => sessionWork ref
  | .stop ref => Tubo.stop ref
  | .requestStop ref => Tubo.requestStop ref
  | .requestedStop ref => Tubo.requestedStop ref
  | .pump ref direction => pumpDirection ref direction
  | .timer ref => runTimer ref
  | .tick now => .call (.tick now) .done

/-- The stream of a job. -/
def RuntimeJob.carrier? : RuntimeJob → Option CarrierRef
  | .connect _ _ _ carrier => some carrier
  | .handle _ _ carrier => some carrier
  | _ => none

abbrev RuntimeEvent :=
  Event RuntimeJob RuntimeCommand RuntimeCommand.Response Unit Tree
abbrev RuntimePool :=
  Pool RuntimeJob RuntimeCommand RuntimeCommand.Response Unit Tree

/-- All interleavings of any number of such goroutines, each stream with its own
one. -/
def runtimeSystem (prim : Primitives) :
    System RuntimeJob RuntimeCommand RuntimeCommand.Response Unit Tree where
  code := RuntimeJob.code prim
  exec := Tree.Exec
  admits history job := ∀ event ∈ history, ∀ other,
    event.action = .spawned other → job.carrier? ≠ none → other.carrier? ≠ job.carrier?

/-! ## Runs by hand -/

/-- The effect of an access for one choice, with given answers to what `serve`
asks besides. -/
def Tree.attempt (answers : (c : ServeCommand) → c.Response) (choice : Bool) :
    (c : RuntimeCommand) → Tree → Option (c.Response × Tree)
  | .serve command, tree => some (answers command, tree)
  | c, tree => Tree.execute choice c tree

/-- Whether a job may be started: nobody has its stream. -/
def RuntimeJob.ready (history : List RuntimeEvent) (job : RuntimeJob) : Bool :=
  history.all fun event =>
    match event.action with
    | .spawned other => job.carrier?.isNone || other.carrier? != job.carrier?
    | _ => true

theorem perform_runtime {prim : Primitives} {answers : (c : ServeCommand) → c.Response}
    (foreign : ∀ c : ServeCommand, c.Foreign (answers c))
    {script : List (Decision RuntimeJob Bool)} {pool : RuntimePool}
    (performed : perform (runtimeSystem prim) (Tree.attempt answers)
      RuntimeJob.ready script (Pool.start {}) = some pool) :
    (runtimeSystem prim).Reachable {} pool := by
  refine perform_reachable ?_ ?_ (System.Reachable.start _) performed
  · intro choice c tree response after attempted
    cases c with
    | serve command =>
      cases attempted
      exact ⟨rfl, foreign command⟩
    | _ => exact ⟨choice, attempted⟩
  · intro history job isReady event member other isSpawn hasCarrier
    have different := List.all_eq_true.mp isReady event member
    rw [isSpawn] at different
    simpa [hasCarrier] using different

end Tubo
