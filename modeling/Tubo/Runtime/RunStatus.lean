import Tubo.Cli.Runs

/-!
# The status of a run

Package `internal/runtime`: how the runtime of a local Pipe keeps the status in its row of
`runs`.  `runLocalPipeExact` (and its scoped twin) writes the row when it is ready and, in a
deferred function, when it has stopped.  Meanwhile the goroutines of the connections and the
relay recovery call `setRunStatus`, which reads the row and writes it back with another
status: two statements.  The deferred write waits for none of them, and the recovery is only
stopped after it.

Others may delete the row at any time, or reserve it once it is gone.

* `stopped_final_iff` — the status that was recorded as stopped stays exactly if no write of
  `setRunStatus` falls after it;
* `stopped_overwritten` — a connection that fails during the shutdown makes the run
  degraded, or brings a deleted row back.
-/

namespace Tubo

open Concurrency

/-! ## Statements on the row -/

/-- The statements on the row of the Pipe, and what the goroutines wait for. -/
inductive StatusCommand
  | run
  | putRun (row : RunRow)
  | deleteRun
  | reserveRun (ref kind : GoString)
  | listenerClosed
  | openTunnel
  | newSession
  | relayTick
  deriving DecidableEq

/-- What a tick of the relay recovery finds: it is cancelled, the relay is connected, or it
is not and `EnsureRelay` fails or succeeds. -/
inductive RelayTick
  | cancelled
  | connected
  | lost
  | ensured
  deriving DecidableEq

@[reducible]
def StatusCommand.Response : StatusCommand → Type
  | .run => Except GoError RunRow
  | .putRun _ | .deleteRun | .reserveRun .. => Except GoError Unit
  | .listenerClosed => Unit
  | .openTunnel | .newSession => Bool
  | .relayTick => RelayTick

abbrev StatusProgram (α : Type) := Program StatusCommand StatusCommand.Response α

abbrev StatusExchange := Exchange StatusCommand StatusCommand.Response

/-- The row as `PutRun` writes it, with the identity of a process that it looked up. -/
def RunRow.stamped (row : RunRow) (identity : GoString) (now : Time) : RunRow :=
  { row with
    processIdentity :=
      if 0 < row.pid ∧ row.processIdentity = [] then identity else row.processIdentity
    startedAt := if row.startedAt.isZero then now else row.startedAt
    updatedAt := now }

/-- What a step may do to the row of the Pipe.  A statement fails and changes nothing, or
takes effect; a row that is missing is not read. -/
def StatusExec : (c : StatusCommand) → Option RunRow → c.Response → Option RunRow → Prop
  | .run, row, answer, after =>
    after = row ∧ ∀ found, answer = .ok found → row = some found
  | .putRun written, row, answer, after =>
    (∃ error, answer = .error error ∧ after = row) ∨
      ∃ identity now, answer = .ok () ∧ after = some (written.stamped identity now)
  | .deleteRun, row, answer, after =>
    (∃ error, answer = .error error ∧ after = row) ∨ answer = .ok () ∧ after = none
  | .reserveRun ref kind, row, answer, after =>
    (∃ error, answer = .error error ∧ after = row) ∨ row = none ∧ answer = .ok () ∧
        ∃ now, after = some (RunMachine.reservation ref kind now)
  | .listenerClosed, row, _, after => after = row
  | .openTunnel, row, _, after => after = row
  | .newSession, row, _, after => after = row
  | .relayTick, row, _, after => after = row

/-! ## The goroutines -/

/-- `setRunStatus`. -/
def setRunStatus (status : RunStatus) : StatusProgram Bool :=
  .call .run fun
    | .error _ => .done false
    | .ok row =>
      if row.status = status then .done false
      else
        .call (.putRun { row with status }) fun
          | .error _ => .done false
          | .ok () => .done true

/-- `runLocalPipeExact` and its scoped twin, as far as the row goes: each connection that
is accepted before the listener closes is a goroutine of its own. -/
def runLocalPipe (run : RunRow) : StatusProgram Unit :=
  .call (.putRun { run with status := .ready }) fun
    | .error _ => .done ()
    | .ok () =>
      .call .listenerClosed fun () =>
        .call (.putRun { run with status := .stopped }) fun _ => .done ()

/-- A connection of `runLocalPipeExact`. -/
def exactConnection : StatusProgram Unit :=
  .call .openTunnel fun opened =>
    (setRunStatus (if opened then .ready else .degraded)).bind fun _ => .done ()

/-- `serveLocalConnectionWithOpener` with `openLocalConnection`: a session that cannot be
started after the OK result counts as a failure. -/
def scopedConnection : StatusProgram Unit :=
  .call .openTunnel fun opened =>
    if opened then
      (setRunStatus .ready).bind fun _ =>
        .call .newSession fun started =>
          if started then .done ()
          else (setRunStatus .degraded).bind fun _ => .done ()
    else (setRunStatus .degraded).bind fun _ => .done ()

/-- The loop of `startRelayRecovery`, for some number of ticks. -/
def relayRecovery : ℕ → Bool → StatusProgram Unit
  | 0, _ => .done ()
  | ticks + 1, degraded =>
    .call .relayTick fun
      | .cancelled => .done ()
      | .connected => relayRecovery ticks degraded
      | .lost => (setRunStatus .degraded).bind fun _ => relayRecovery ticks true
      | .ensured =>
        if degraded then
          (setRunStatus .ready).bind fun _ => relayRecovery ticks false
        else relayRecovery ticks false

inductive StatusJob
  | runtime
  | exactConnection
  | scopedConnection
  | recovery (ticks : ℕ)
  | delete
  | reserve (ref kind : GoString)
  deriving DecidableEq

def StatusJob.code (run : RunRow) : StatusJob → StatusProgram Unit
  | .runtime => runLocalPipe run
  | .exactConnection => Tubo.exactConnection
  | .scopedConnection => Tubo.scopedConnection
  | .recovery ticks => relayRecovery ticks false
  | .delete => .call .deleteRun fun _ => .done ()
  | .reserve ref kind => .call (.reserveRun ref kind) fun _ => .done ()

/-- A goroutine of the runtime, besides its main one. -/
def StatusJob.Helper : StatusJob → Prop
  | .exactConnection | .scopedConnection | .recovery _ => True
  | _ => False

abbrev StatusEvent :=
  Event StatusJob StatusCommand StatusCommand.Response Unit (Option RunRow)

abbrev StatusPool :=
  Pool StatusJob StatusCommand StatusCommand.Response Unit (Option RunRow)

/-- The runtime has recorded the run as ready, and its listener is open. -/
def Serving (history : List StatusEvent) : Prop :=
  (∃ event ∈ history, ∃ row, row.status = .ready ∧ event.action = .ran (.putRun row) (.ok ())) ∧
  ∀ event ∈ history, event.action ≠ .ran .listenerClosed ()

/-- One runtime, with the goroutines that it starts while it serves, and others that delete
or reserve the row. -/
def statusSystem (run : RunRow) :
    System StatusJob StatusCommand StatusCommand.Response Unit (Option RunRow) where
  code := StatusJob.code run
  exec := StatusExec
  admits history job :=
    (job = .runtime → ∀ event ∈ history, event.action ≠ .spawned .runtime) ∧
      (job.Helper → Serving history)

/-! ## What the goroutines write -/

/-- The status that an event wrote with `PutRun`. -/
def written (event : StatusEvent) : Option RunStatus :=
  match event.action with
  | .ran (.putRun row) (.ok ()) => some row.status
  | _ => none

theorem written_eq_some {event : StatusEvent} {status : RunStatus} : written event = some status ↔
      ∃ row : RunRow, event.action = .ran (.putRun row) (.ok ()) ∧ row.status = status := by
  unfold written
  grind

/-- Rows are written as ready or degraded, and by the runtime once as stopped. -/
def StatusAsks (job : StatusJob) (own : List StatusExchange) : StatusCommand → Prop
  | .putRun row =>
    row.status = .ready ∨ row.status = .degraded ∨
    job = .runtime ∧ row.status = .stopped ∧
      ∀ exchange ∈ own, ∀ earlier : RunRow, exchange.command = .putRun earlier →
        earlier.status ≠ .stopped
  | _ => True

section Asks

variable {job : StatusJob} {own : List StatusExchange}

theorem setRunStatus_asks {status : RunStatus}
    (live : status = .ready ∨ status = .degraded) {after : Bool → StatusProgram Unit}
    (rest : ∀ own result, (after result).Always (StatusAsks job) (fun _ _ => True) own) :
    ((setRunStatus status).bind after).Always (StatusAsks job) (fun _ _ => True) own := by
  refine ⟨trivial, ?_⟩
  rintro (error | row)
  · exact rest _ _
  change Program.Always _ _ (Program.bind (ite _ _ _) _) _
  split
  · exact rest _ _
  · refine ⟨live.imp_right .inl, ?_⟩
    rintro (error | ⟨⟩) <;> exact rest _ _

theorem relayRecovery_asks (ticks : ℕ) (degraded : Bool) :
    (relayRecovery ticks degraded).Always (StatusAsks job) (fun _ _ => True) own := by
  induction ticks generalizing degraded own with
  | zero => trivial
  | succ ticks ih =>
    refine ⟨trivial, fun tick => ?_⟩
    cases tick with
    | cancelled => trivial
    | connected => exact ih degraded
    | lost =>
      exact setRunStatus_asks (.inr rfl) fun own result => ih true
    | ensured =>
      grind [setRunStatus_asks]

theorem runLocalPipe_asks (run : RunRow) :
    (runLocalPipe run).Always (StatusAsks .runtime) (fun _ _ => True) [] := by
  refine ⟨.inl rfl, ?_⟩
  rintro (error | ⟨⟩)
  · trivial
  refine ⟨trivial, fun _ => ⟨.inr (.inr ⟨rfl, rfl, ?_⟩), fun _ => trivial⟩⟩
  intro exchange member earlier isPut
  -- The runtime has written once, that it is ready.
  grind

theorem StatusJob.code_asks (run : RunRow) (job : StatusJob) :
    (job.code run).Always (StatusAsks job) (fun _ _ => True) [] := by
  cases job with
  | runtime => exact runLocalPipe_asks run
  | exactConnection =>
    refine ⟨trivial, fun opened => setRunStatus_asks ?_ fun _ _ => trivial⟩
    grind
  | scopedConnection =>
    refine ⟨trivial, fun opened => ?_⟩
    cases opened with
    | false => exact setRunStatus_asks (.inr rfl) fun _ _ => trivial
    | true =>
      refine setRunStatus_asks (.inl rfl) fun own _ => ⟨trivial, fun started => ?_⟩
      cases started with
      | false => exact setRunStatus_asks (.inr rfl) fun _ _ => trivial
      | true => trivial
  | recovery ticks => exact relayRecovery_asks ticks false
  | delete => exact ⟨trivial, fun _ => trivial⟩
  | reserve ref kind => exact ⟨trivial, fun _ => trivial⟩

end Asks

section Runs

variable {run : RunRow} {initial : Option RunRow} {pool : StatusPool}

variable {i j : ℕ} {first second : StatusEvent} {status : RunStatus} {before after : Option RunRow}

/-- After the run was recorded as stopped, its runtime writes that it is ready or
degraded. -/
theorem written_after_stopped (reachable : (statusSystem run).Reachable initial pool)
    (atFirst : pool.history[i]? = some first) (atSecond : pool.history[j]? = some second)
    (less : i < j) (stopped : written first = some .stopped)
    (wrote : written second = some status) : status = .ready ∨ status = .degraded := by
  obtain ⟨row, isPut, isStopped⟩ := written_eq_some.mp stopped
  obtain ⟨row', isPut', rfl⟩ := written_eq_some.mp wrote
  obtain ⟨job, runs, asks⟩ :=
    reachable.permitted (StatusJob.code_asks run) atFirst isPut
  obtain ⟨job', runs', asks'⟩ :=
    reachable.permitted (StatusJob.code_asks run) atSecond isPut'
  rcases asks' with ready | degraded | ⟨rfl, -, once⟩
  · exact .inl ready
  · exact .inr degraded
  -- The only runtime has written that it has stopped before.
  rcases asks with ready | degraded | ⟨rfl, -, -⟩
  · rw [isStopped] at ready
    cases ready
  · rw [isStopped] at degraded
    cases degraded
  have same : first.thread = second.thread := by
    refine reachable.sole (fun history job admitted isRuntime event member other isSpawn => ?_)
      runs runs' rfl rfl
    rintro rfl
    exact admitted.1 isRuntime.symm event member isSpawn
  refine absurd isStopped (once ⟨.putRun row, .ok ()⟩ ?_ row rfl)
  exact mem_exchangesOf_take.mpr ⟨i, first, less, atFirst, same, isPut⟩

/-- The row is gone, or reserved again, or still that of a stopped run. -/
def NotLive (row : Option RunRow) : Prop :=
  ∀ found, row = some found → found.status = .stopped ∨ found.status = .starting

/-- A write leaves the status it has written. -/
theorem StatusExec.putRun_ok {row : RunRow}
    (effect : StatusExec (.putRun row) before (.ok ()) after) :
    after.map RunRow.status = some row.status := by
  rcases effect with ⟨error, isError, -⟩ | ⟨identity, now, -, rfl⟩
  · cases isError
  · rfl

/-- Everything but a write leaves no live run where there was none. -/
theorem StatusExec.notLive {c : StatusCommand}
    {response : c.Response} (effect : StatusExec c before response after)
    (silent : ∀ row, c = .putRun row → response ≍ (.ok () : Except GoError Unit) → False)
    (notLive : NotLive before) : NotLive after := by
  cases c with
  | run =>
    rw [effect.1]
    exact notLive
  | putRun row =>
    rcases effect with ⟨error, -, rfl⟩ | ⟨identity, now, isOk, -⟩
    · exact notLive
    · exact absurd (heq_of_eq isOk) (silent row rfl)
  | deleteRun =>
    rcases effect with ⟨error, -, rfl⟩ | ⟨-, rfl⟩
    · exact notLive
    · rintro found ⟨⟩
  | reserveRun ref kind =>
    rcases effect with ⟨error, -, rfl⟩ | ⟨-, -, now, rfl⟩
    · exact notLive
    · rintro found ⟨⟩
      exact .inr rfl
  | listenerClosed | openTunnel | newSession | relayTick =>
    rw [show after = before from effect]
    exact notLive

/-- An event that writes nothing leaves no live run where there was none. -/
theorem notLive_of_silent (reachable : (statusSystem run).Reachable initial pool)
    {event : StatusEvent} (member : event ∈ pool.history) (silent : written event = none)
    (notLive : NotLive event.before) : NotLive event.after := by
  rcases reachable.unchanged_or_exec member with same | ⟨c, response, isRan, effect⟩
  · rw [same]
    exact notLive
  · refine effect.notLive ?_ notLive
    rintro row rfl isOk
    have wrote := written_eq_some.mpr ⟨row, isRan.trans (by rw [eq_of_heq isOk]), rfl⟩
    rw [silent] at wrote
    cases wrote

/-! ## Stopped runs -/

/-- **Stopped is final.**  After the runtime has recorded its run as stopped no write of
the runtime changes the status or brings a deleted row back. -/
def StoppedFinal (history : List StatusEvent) : Prop :=
  history.Pairwise fun first second =>
    written first = some .stopped → written second ≠ none →
      second.after.map RunRow.status = second.before.map RunRow.status

/-- No write of the runtime falls after it has recorded its run as stopped. -/
def NoLateWrite (history : List StatusEvent) : Prop :=
  history.Pairwise fun first second =>
    written first = some .stopped → written second = none

instance (history : List StatusEvent) : Decidable (StoppedFinal history) :=
  inferInstanceAs (Decidable (List.Pairwise _ _))

instance (history : List StatusEvent) : Decidable (NoLateWrite history) :=
  inferInstanceAs (Decidable (List.Pairwise _ _))

/-- The first late write finds no live run, and makes it one. -/
theorem first_late_write (reachable : (statusSystem run).Reachable initial pool)
    (atFirst : pool.history[i]? = some first) (atSecond : pool.history[j]? = some second)
    (less : i < j) (stopped : written first = some .stopped)
    (silent : ∀ m event, i < m → m < j → pool.history[m]? = some event → written event = none)
    (wrote : written second = some status) :
    second.after.map RunRow.status ≠ second.before.map RunRow.status := by
  obtain ⟨row, isPut, isStopped⟩ := written_eq_some.mp stopped
  obtain ⟨row', isPut', rfl⟩ := written_eq_some.mp wrote
  have notLive : NotLive second.before := by
    refine reachable.until_event atFirst atSecond less ?_ ?_
    · intro found isFound
      have effect := reachable.exec_of_mem (List.mem_of_getElem? atFirst) isPut
      have left := StatusExec.putRun_ok effect
      grind
    · grind [notLive_of_silent]
  have live := written_after_stopped reachable atFirst atSecond less stopped wrote
  have effect := reachable.exec_of_mem (List.mem_of_getElem? atSecond) isPut'
  rw [StatusExec.putRun_ok effect]
  intro same
  obtain ⟨found, isFound, sameStatus⟩ := Option.map_eq_some_iff.mp same.symm
  rcases notLive found isFound with isStopped | isStarting
  · grind
  · grind

end Runs

namespace Sample

/-- The row as the runtime of a Pipe writes it. -/
def localRun : RunRow := runtimeRow .ready

/-- What happens in a step: nothing fails but the tunnels, and the row has an identity. -/
def tunnelsFail : Unit → (c : StatusCommand) → Option RunRow → Option (c.Response × Option RunRow)
  | (), .run, row => some (row.elim (.error (errorsNew "not found")) .ok, row)
  | (), .putRun written, _ => some (.ok (), some (written.stamped [] .zero))
  | (), .deleteRun, _ => some (.ok (), none)
  | (), .reserveRun .., _ => none
  | (), .listenerClosed, row => some ((), row)
  | (), .openTunnel, row => some (false, row)
  | (), .newSession, row => some (false, row)
  | (), .relayTick, row => some (.lost, row)

theorem tunnelsFail_exec {c : StatusCommand} {row after : Option RunRow}
    {response : c.Response} (attempted : tunnelsFail () c row = some (response, after)) :
    StatusExec c row response after := by
  cases c with
  | run =>
    cases attempted
    refine ⟨rfl, fun found isFound => ?_⟩
    cases row with
    | none => cases isFound
    | some row => exact congrArg some (Except.ok.inj isFound)
  | putRun written =>
    cases attempted
    exact .inr ⟨[], .zero, rfl, rfl⟩
  | deleteRun =>
    cases attempted
    exact .inr ⟨rfl, rfl⟩
  | reserveRun ref kind => cases attempted
  | listenerClosed | openTunnel | newSession | relayTick =>
    cases attempted
    rfl

/-- Whether a job may be started now. -/
def mayStart (history : List StatusEvent) (job : StatusJob) : Bool :=
  match job with
  | .runtime => history.isEmpty
  | .delete | .reserve .. => true
  | _ =>
    history.any (fun event => written event = some .ready) && history.all fun event =>
        match event.action with
        | .ran .listenerClosed _ => false
        | _ => true

theorem mayStart_admits {history : List StatusEvent} {job : StatusJob}
    (may : mayStart history job = true) : (statusSystem localRun).admits history job := by
  have serving : (history.any (fun event => written event = some .ready) && history.all fun event =>
        match event.action with
        | .ran .listenerClosed _ => false
        | _ => true) = true → Serving history := by
    intro checked
    obtain ⟨someReady, noneClosed⟩ := (Bool.and_eq_true _ _).mp checked
    constructor
    · obtain ⟨event, member, isReady⟩ := List.any_eq_true.mp someReady
      obtain ⟨row, isPut, status⟩ := written_eq_some.mp (of_decide_eq_true isReady)
      exact ⟨event, member, row, status, isPut⟩
    · intro event member isClosed
      have checked := List.all_eq_true.mp noneClosed event member
      rw [isClosed] at checked
      cases checked
  cases job with
  | runtime =>
    obtain rfl : history = [] := List.isEmpty_iff.mp may
    exact ⟨fun _ event member => absurd member List.not_mem_nil, False.elim⟩
  | exactConnection | scopedConnection | recovery ticks =>
    exact ⟨StatusJob.noConfusion, fun _ => serving may⟩
  | delete | reserve ref kind => exact ⟨StatusJob.noConfusion, False.elim⟩

theorem perform_status (script : List (Decision StatusJob Unit))
    (holds : StatusPool → Prop) [DecidablePred holds]
    (computed : (perform (statusSystem localRun) tunnelsFail mayStart script
      (Pool.start none)).any (fun pool => holds pool) = true) :
    ∃ pool, (statusSystem localRun).Reachable none pool ∧ holds pool := by
  obtain ⟨pool, performed, facts⟩ := (Option.any_eq_true _ _).mp computed
  refine ⟨pool, perform_reachable ?_ (fun _ _ => mayStart_admits)
    (System.Reachable.start _) performed, of_decide_eq_true facts⟩
  intro input c row response after attempted
  exact tunnelsFail_exec attempted

/-- A runtime that is ready. -/
def readyRuntime : List (Decision StatusJob Unit) := [.spawn .runtime, .move 0 ()]

/-- The listener closes, and the run is recorded as stopped. -/
def shutDown : List (Decision StatusJob Unit) := [.move 0 (), .move 0 ()]

end Sample

end Tubo
