import Tubo.Concurrency.Protocol
import Tubo.Store.Schema

/-!
# Reservations in the run table

The table `runs` of package `internal/store` has a row for each started Pipe: who
runs it, and how it is.  `startDetached` and `reserveForeground` of package
`internal/cli` look at the row, remove it if it is left over, and insert a
reservation in its place.  Each of these is a statement of its own.

A call looks for a live process only if the status of the row is `ready`, and what
it removes is the row with the reference, whatever has become of it meanwhile.

* `reservations_exclusive` — as long as the calls remove the rows they have read,
  and a live process is recorded as `ready` or `starting`, a reservation replaces
  no live process, and at most one call holds it.
* `reservations_not_exclusive` — without either, both may fail.
-/

namespace Tubo

open Concurrency

/-! ## The table and the processes -/

/-- The statuses that the runtimes and `ReserveRun` write. -/
inductive RunStatus
  | starting
  | ready
  | degraded
  | stopped
  deriving DecidableEq, Repr

/-- The sources that `PutRun` accepts. -/
inductive RunSource
  | foreground
  | detached
  | launchd
  | systemd
  deriving DecidableEq, Repr

/-- `store.Run`. -/
structure RunRow where
  primaryRef : GoString
  kind : GoString
  pid : ℤ
  processIdentity : GoString
  source : RunSource
  status : RunStatus
  peerID : GoString
  address : GoString
  startedAt : Time
  updatedAt : Time
  deriving DecidableEq, Repr

/-- The machine that the calls run on: `runs`, the managers in `supervisors`, and
what `ps` prints about a process. -/
structure RunMachine where
  runs : Table GoString RunRow := ∅
  supervisors : Table GoString GoString := ∅
  processes : ℤ → Option GoString := fun _ => none

namespace RunMachine

/-- The verb `%d`. -/
def decimalInt (n : ℤ) : GoString :=
  str (toString n)

/-- `ProcessIdentity`; `ps` prints the start time and the command of a process. -/
def processIdentity (m : RunMachine) (pid : ℤ) : Except GoError GoString :=
  if pid ≤ 0 then .error (errorsNew "invalid pid")
  else
    match m.processes pid with
    | none => .error (errorsNew "exit status 1")
    | some output =>
      let identity := trimSpace output
      if identity = [] then .error (errorsNew "process not found")
      else .ok (decimalInt pid ++ str ":" ++ identity)

/-- The process that is recorded in a row is alive. -/
def Alive (m : RunMachine) (row : RunRow) : Prop :=
  m.processIdentity row.pid = .ok row.processIdentity

instance (m : RunMachine) (row : RunRow) : Decidable (m.Alive row) :=
  inferInstanceAs (Decidable (_ = _))

/-- Some processes exit. -/
def exit (m : RunMachine) (pids : List ℤ) : RunMachine :=
  { m with processes := fun pid => if pid ∈ pids then none else m.processes pid }

/-- A process that is alive was alive before. -/
theorem Alive.of_exit {m : RunMachine} {pids : List ℤ} {row : RunRow}
    (alive : (m.exit pids).Alive row) : m.Alive row := by
  unfold Alive processIdentity at alive ⊢
  grind [exit]

/-- The row that `ReserveRun` inserts. -/
def reservation (ref kind : GoString) (now : Time) : RunRow :=
  ⟨ref, kind, 0, [], .foreground, .starting, [], [], now, now⟩

/-- `Supervisor`: the manager. -/
def supervisor (m : RunMachine) (ref : GoString) : Except GoError GoString :=
  match m.supervisors.lookup ref with
  | none => .error (.wrap [] errNotFound (str ": supervisor for " ++ ref))
  | some manager => .ok manager

/-- `Run`. -/
def run (m : RunMachine) (ref : GoString) : Except GoError RunRow :=
  match m.runs.lookup ref with
  | none => .error (.wrap [] errNotFound (str ": " ++ ref))
  | some row => .ok row

/-- `DeleteRun`. -/
def deleteRun (m : RunMachine) (ref : GoString) : RunMachine :=
  { m with runs := m.runs.erase ref }

/-- The error of `ReserveRun`. -/
def reserveError (ref : GoString) (cause : GoError) : GoError :=
  .wrap (str "conflict: run already exists for " ++ ref ++ str ": ") cause []

/-- `ReserveRun`. -/
def reserveRun (m : RunMachine) (ref kind : GoString) (now : Time) : Except GoError RunMachine :=
  match m.runs.lookup ref with
  | some _ =>
    .error (reserveError ref (errorsNew
      "constraint failed: UNIQUE constraint failed: runs.primary_ref"))
  | none =>
    .ok { m with runs := m.runs.insert ref (reservation ref kind now) }

@[simp]
theorem deleteRun_lookup (m : RunMachine) (ref : GoString) :
    (m.deleteRun ref).runs.lookup ref = none :=
  AList.lookup_erase ..

theorem run_eq_ok {m : RunMachine} {ref : GoString} {row : RunRow}
    (found : m.run ref = .ok row) : m.runs.lookup ref = some row := by
  grind [run]

theorem reserveRun_eq_ok {m after : RunMachine} {ref kind : GoString} {now : Time}
    (reserved : m.reserveRun ref kind now = .ok after) :
    m.runs.lookup ref = none ∧ after.processes = m.processes ∧
      after.runs.lookup ref = some (reservation ref kind now) := by
  grind [AList.lookup_insert, reserveRun]

end RunMachine

/-! ## Steps -/

inductive RunCommand
  | supervisor (ref : GoString)
  | run (ref : GoString)
  | processIdentity (pid : ℤ)
  | deleteRun (ref : GoString)
  | reserveRun (ref kind : GoString)
  | startChild (ref : GoString)
  | beforeDeadline
  | childExited (pid : ℤ)
  | killChild (pid : ℤ)
  deriving DecidableEq

@[reducible]
def RunCommand.Response : RunCommand → Type
  | .supervisor _ | .processIdentity _ => Except GoError GoString
  | .run _ => Except GoError RunRow
  | .startChild _ => Except GoError ℤ
  | .beforeDeadline | .childExited _ => Bool
  | .killChild _ => Unit
  | .deleteRun _ | .reserveRun .. => Except GoError Unit

/-- What the surroundings decide about a step: which processes exit before it,
whether it fails, the clock, and the answers about a child. -/
structure RunInput where
  exited : List ℤ := []
  failure : Option GoError := none
  now : Time := .zero
  child : ℤ := 0
  answer : Bool := false

/-- One step of a machine on which nobody exits. -/
def RunMachine.serve (input : RunInput) : (c : RunCommand) → RunMachine →
    Option (c.Response × RunMachine)
  | .supervisor ref, m =>
    match input.failure with
    | some error =>
      if error.is errNotFound then none else some (.error error, m)
    | none => some (m.supervisor ref, m)
  | .run ref, m =>
    match input.failure with
    | some error => some (.error error, m)
    | none => some (m.run ref, m)
  | .processIdentity pid, m => some (m.processIdentity pid, m)
  | .deleteRun ref, m =>
    match input.failure with
    | some error => some (.error error, m)
    | none => some (.ok (), m.deleteRun ref)
  | .reserveRun ref kind, m =>
    match input.failure with
    | some error => some (.error (reserveError ref error), m)
    | none =>
      match m.reserveRun ref kind input.now with
      | .error error => some (.error error, m)
      | .ok after => some (.ok (), after)
  | .startChild _, m =>
    match input.failure with
    | some error => some (.error error, m)
    | none => some (.ok input.child, m)
  | .beforeDeadline, m => some (input.answer, m)
  | .childExited _, m => some (input.answer, m)
  | .killChild _, m => some ((), m)

/-- One step.  Processes that start have an identity that no row has, so only
exits matter. -/
def RunMachine.execute (input : RunInput) (c : RunCommand) (m : RunMachine) :
    Option (c.Response × RunMachine) :=
  (m.exit input.exited).serve input c

section Serve

variable {m after : RunMachine} {input : RunInput}

variable {c : RunCommand} {response : c.Response}

/-- Steps start no recorded process. -/
theorem RunMachine.serve_processes
    (ran : m.serve input c = some (response, after)) : after.processes = m.processes := by
  cases c with
  | reserveRun ref kind =>
    simp only [RunMachine.serve] at ran
    split at ran
    · cases ran
      rfl
    · split at ran
      · cases ran
        rfl
      · cases ran
        exact (RunMachine.reserveRun_eq_ok ‹_›).2.1
  | supervisor ref | run ref | deleteRun ref | startChild ref =>
    simp only [RunMachine.serve] at ran
    split at ran <;> try split at ran
    all_goals cases ran
    all_goals rfl
  | _ =>
    cases ran
    rfl

theorem RunMachine.serve_alive (ran : m.serve input c = some (response, after)) (row : RunRow) :
    after.Alive row ↔ m.Alive row := by
  unfold RunMachine.Alive RunMachine.processIdentity
  rw [RunMachine.serve_processes ran]

/-- Only two commands change the table. -/
theorem RunMachine.serve_runs (ran : m.serve input c = some (response, after)) :
    after.runs = m.runs ∨ (∃ ref, c = .deleteRun ref) ∨ ∃ ref kind, c = .reserveRun ref kind := by
  cases c with
  | deleteRun ref => exact Or.inr (Or.inl ⟨ref, rfl⟩)
  | reserveRun ref kind => exact Or.inr (Or.inr ⟨ref, kind, rfl⟩)
  | supervisor ref | run ref | startChild ref =>
    grind [serve]
  | _ =>
    cases ran
    exact Or.inl rfl

end Serve

/-! ## The programs -/

abbrev RunProgram (α : Type) :=
  Program RunCommand RunCommand.Response (Except GoError α)

/-- `supervisorAllowsCurrentSource`; `source` is the variable `TUBO_RUN_SOURCE` of
the environment. -/
def supervisorAllowsCurrentSource (source ref : GoString) : RunProgram Unit :=
  .call (.supervisor ref) fun
    | .error error =>
      if error.is errNotFound then .done (.ok ()) else .done (.error error)
    | .ok manager =>
      if source = manager then .done (.ok ())
      else .done (.error (.new (str "conflict: " ++ ref ++ str " is " ++ manager ++
        str "-supervised; use tubo supervise uninstall " ++ ref)))

/-- The part that `startDetached` and `reserveForeground` share: the row is live,
or starting, or removed before `reserve` goes on. -/
def settleExisting {α : Type} (ref : GoString)
    (live : RunRow → Except GoError α) (reserve : RunProgram α) : RunProgram α :=
  let replace (existing : RunRow) : RunProgram α :=
    if existing.status = .starting then
      .done (.error (.new (str "conflict: " ++ ref ++ str " is already starting")))
    else
      .call (.deleteRun ref) fun
        | .error error => .done (.error error)
        | .ok () => reserve
  .call (.run ref) fun
    | .error _ => reserve
    | .ok existing =>
      if existing.status = .ready then
        .call (.processIdentity existing.pid) fun identity =>
          if identity = .ok existing.processIdentity then .done (live existing)
          else replace existing
      else replace existing

/-- `reserveForeground`; the error about a running process also carries the advice
to stop it. -/
def reserveForeground (source ref kind : GoString) : RunProgram Unit :=
  (supervisorAllowsCurrentSource source ref).andThen fun _ =>
    settleExisting ref
      (fun _ => .error (.new (str "conflict: " ++ ref ++ str " is already running")))
      (.call (.reserveRun ref kind) .done)

/-- The rounds of the readiness loop: one every 100 ms for 15 s. -/
def readinessRounds : ℕ := 150

/-- The readiness loop of `startDetached`. -/
def awaitReady (ref : GoString) (child : ℤ) :
    ℕ → Program RunCommand RunCommand.Response (Option RunRow)
  | 0 => .done none
  | rounds + 1 =>
    let again : Program RunCommand RunCommand.Response (Option RunRow) :=
      .call (.childExited child) fun
        | true => .done none
        | false => awaitReady ref child rounds
    .call .beforeDeadline fun
      | false => .done none
      | true =>
        .call (.run ref) fun
          | .error _ => again
          | .ok run =>
            if run.status = .ready ∧ run.pid = child then .done (some run)
            else again

/-- `startDetached` after its reservation.  The reservation is removed on every way
out but the one on which the child is ready; `startChild` stands for the steps up to
`command.Start`. -/
def startReserved (ref : GoString) : RunProgram RunRow :=
  .call (.startChild ref) fun
    | .error error => .call (.deleteRun ref) fun _ => .done (.error error)
    | .ok child =>
      (awaitReady ref child readinessRounds).bind fun
        | some run => .done (.ok run)
        | none =>
          .call (.killChild child) fun _ =>
            .call (.deleteRun ref) fun _ =>
              .done (.error (errorsNew "readiness_failed: child did not become ready"))

/-- `startDetached`. -/
def startDetached (source ref : GoString) : RunProgram RunRow :=
  (supervisorAllowsCurrentSource source ref).andThen fun _ =>
    settleExisting ref .ok (.call (.reserveRun ref (str "pipe")) fun
        | .error error => .done (.error error)
        | .ok () => startReserved ref)

/-- A call, with the source in its environment. -/
inductive RunCall
  | detached (source : GoString)
  | foreground (source kind : GoString)
  deriving DecidableEq

/-- The code of a call; only `startDetached` returns a row. -/
def RunCall.code (ref : GoString) : RunCall → RunProgram (Option RunRow)
  | .detached source =>
    (startDetached source ref).andThen fun run => .done (.ok (some run))
  | .foreground source kind =>
    (reserveForeground source ref kind).andThen fun _ => .done (.ok none)

/-- Any number of calls for one reference. -/
def runCalls (ref : GoString) : System RunCall RunCommand RunCommand.Response
    (Except GoError (Option RunRow)) RunMachine where
  code := RunCall.code ref
  exec c m response after := ∃ input, m.execute input c = some (response, after)
  admits _ _ := True

/-! ## How far a call is -/

/-- How far a call is, with the row that it has read. -/
inductive RunPhase
  | outside
  | found (row : RunRow)
  | stale (row : RunRow)
  | cleared (row : Option RunRow)
  | holding (row : Option RunRow)
  | finished
  deriving DecidableEq

/-- The call holds a reservation. -/
def RunPhase.isHolding : RunPhase → Bool
  | .holding _ => true
  | _ => false

/-- The phase of a call that has read a row. -/
def RunPhase.ofRow (row : RunRow) : RunPhase :=
  match row.status with
  | .ready => .found row
  | .starting => .finished
  | .degraded | .stopped => .stale row

theorem RunPhase.ofRow_free (row : RunRow) : (RunPhase.ofRow row).isHolding = false := by
  unfold RunPhase.ofRow
  split <;> rfl

/-- The automaton of a call.  A call holds a reservation from the insertion until
it removes the row of its reference. -/
def runPhases (ref : GoString) : Protocol RunCommand RunCommand.Response where
  State := RunPhase
  permits
    | .outside, .supervisor _ => True
    | .outside, .run other => other = ref
    | .found row, .processIdentity pid => pid = row.pid
    | .stale _, .deleteRun other => other = ref
    | .cleared _, .reserveRun other _ => other = ref
    | .holding _, .deleteRun other => other = ref
    | .holding _, .run _ | .holding _, .startChild _ | .holding _, .beforeDeadline
    | .holding _, .childExited _ | .holding _, .killChild _ => True
    | _, _ => False
  expects _ _ := True
  next
    | .outside, .run _, .error _ => .cleared none
    | .outside, .run _, .ok row => .ofRow row
    | .found row, .processIdentity _, identity =>
      if identity = .ok row.processIdentity then .finished else .stale row
    | .stale _, .deleteRun _, .error _ => .finished
    | .stale row, .deleteRun _, .ok () => .cleared (some row)
    | .cleared _, .reserveRun .., .error _ => .finished
    | .cleared row, .reserveRun .., .ok () => .holding row
    | .holding _, .deleteRun _, _ => .finished
    | phase, _, _ => phase

section Obeys

variable {ref : GoString} {α : Type}

/-- A call that asks for no more than to be permitted. -/
abbrev Follows (ref : GoString) (program : RunProgram α) (phase : RunPhase) : Prop :=
  program.Obeys (runPhases ref) (fun _ _ => True) phase

theorem supervisorAllowsCurrentSource_follows {source : GoString}
    {next : Unit → RunProgram α} (follows : Follows ref (next ()) .outside) :
    Follows ref ((supervisorAllowsCurrentSource source ref).andThen next)
      .outside := by
  refine ⟨trivial, ?_⟩
  rintro (error | manager) -
  · by_cases absent : error.is errNotFound = true
    · simp only [absent, if_true]
      exact follows
    · simp only [absent]
      trivial
  · by_cases allowed : source = manager
    · simp only [allowed, if_true]
      exact follows
    · simp only [allowed, if_false]
      trivial

theorem settleExisting_follows {live : RunRow → Except GoError α} {reserve : RunProgram α}
    (follows : ∀ row, Follows ref reserve (.cleared row)) :
    Follows ref (settleExisting ref live reserve) .outside := by
  have replaced : ∀ row, Follows ref (.call (.deleteRun ref) fun
        | .error error => .done (.error error)
        | .ok () => reserve) (.stale row) := by
    intro row
    refine ⟨rfl, ?_⟩
    rintro (error | ⟨⟩) -
    · trivial
    · exact follows (some row)
  refine ⟨rfl, ?_⟩
  rintro (error | row) -
  · exact follows none
  · show Follows ref _ (.ofRow row)
    unfold RunPhase.ofRow
    cases status : row.status with
    | ready =>
      simp only [status, if_true]
      refine ⟨rfl, ?_⟩
      intro identity _
      simp only [runPhases]
      by_cases isLive : identity = .ok row.processIdentity
      · simp only [isLive, if_true]
        trivial
      · simp only [isLive, reduceCtorEq, if_false]
        exact replaced row
    | starting =>
      simp only [status, reduceCtorEq, if_false, if_true]
      trivial
    | degraded =>
      grind
    | stopped =>
      grind

/-- The readiness loop holds the reservation. -/
theorem awaitReady_follows {row : Option RunRow} (child : ℤ) (rounds : ℕ)
    {post : RunPhase → Option RunRow → Prop} (holds : ∀ run, post (.holding row) run) :
    (awaitReady ref child rounds).Obeys (runPhases ref) post (.holding row) := by
  induction rounds with
  | zero => exact holds none
  | succ rounds ih =>
    have again : Program.Obeys (runPhases ref) post (.call (.childExited child) fun
          | true => .done none
          | false => awaitReady ref child rounds) (.holding row) := by
      refine ⟨trivial, ?_⟩
      rintro (_ | _) -
      · exact ih
      · exact holds none
    refine ⟨trivial, ?_⟩
    rintro (_ | _) -
    · exact holds none
    refine ⟨trivial, ?_⟩
    rintro (error | run) -
    · exact again
    · by_cases isReady : run.status = .ready ∧ run.pid = child
      · simp only [isReady, and_self, if_true]
        exact holds _
      · simp only [isReady, if_false]
        exact again

theorem startReserved_follows (row : Option RunRow) :
    Follows ref (startReserved ref) (.holding row) := by
  refine ⟨trivial, ?_⟩
  rintro (error | child) -
  · exact ⟨rfl, fun _ _ => trivial⟩
  · apply Program.Obeys.bind
    apply awaitReady_follows
    rintro (_ | run)
    · exact ⟨trivial, fun _ _ => ⟨rfl, fun _ _ => trivial⟩⟩
    · trivial

/-- Whatever the store answers, a call goes through its phases. -/
theorem code_follows (call : RunCall) : Follows ref (call.code ref) .outside := by
  have returns : ∀ {β : Type} {program : RunProgram β} {q : RunPhase}
      {result : β → Option RunRow}, Follows ref program q →
      Follows ref (program.andThen fun value => .done (.ok (result value))) q := by
    intro β program q result follows
    apply Program.Obeys.bind
    refine follows.mono ?_
    rintro q (error | value) - <;> trivial
  cases call with
  | detached source =>
    apply returns
    apply supervisorAllowsCurrentSource_follows
    apply settleExisting_follows
    intro row
    refine ⟨rfl, ?_⟩
    rintro (error | ⟨⟩) -
    · trivial
    · exact startReserved_follows row
  | foreground source kind =>
    apply returns
    apply supervisorAllowsCurrentSource_follows
    apply settleExisting_follows
    intro row
    exact ⟨rfl, fun _ _ => trivial⟩

end Obeys

/-! ## The invariant -/

/-- What a call knows in a phase. -/
def RunPhase.Fits (m : RunMachine) : RunPhase → Prop
  | .found row => row.status = .ready
  | .stale row => row.status ≠ .starting ∧ ¬m.Alive row
  | .cleared (some row) | .holding (some row) => ¬m.Alive row
  | _ => True

theorem RunPhase.Fits.later {m after : RunMachine} {phase : RunPhase}
    (fits : phase.Fits m) (exits : ∀ row, after.Alive row → m.Alive row) : phase.Fits after := by
  cases phase with
  | stale row => exact ⟨fits.1, fun alive => fits.2 (exits row alive)⟩
  | cleared row | holding row =>
    cases row with
    | none => trivial
    | some row => exact fun alive => fits (exits row alive)
  | _ => exact fits

/-- A row that records a live process says so: it is ready, or starting. -/
def RunMachine.Announced (m : RunMachine) (ref : GoString) : Prop :=
  ∀ row, m.runs.lookup ref = some row → m.Alive row → row.status = .ready ∨ row.status = .starting

/-- The invariant. -/
structure RunsConsistent (ref : GoString) (m : RunMachine) (q : ℕ → RunPhase) :
    Prop where
  announced : m.Announced ref
  fits : ∀ t, (q t).Fits m
  reserved : ∀ t row, q t = .holding row →
    ∃ current, m.runs.lookup ref = some current ∧ current.status = .starting
  single : ∀ t u row other, q t = .holding row → q u = .holding other → t = u

namespace RunsConsistent

variable {ref : GoString} {m after : RunMachine} {q : ℕ → RunPhase} {t : ℕ}
  {phase : RunPhase}

section

variable (consistent : RunsConsistent ref m q)

include consistent

/-- Calls other than the one that moves know what they knew. -/
theorem fits_update
    (exits : ∀ row, after.Alive row → m.Alive row) (fits : phase.Fits after) (u : ℕ) :
    (Function.update q t phase u).Fits after := by
  by_cases same : u = t
  · rw [same, Function.update_self]
    exact fits
  · rw [Function.update_of_ne same]
    exact (consistent.fits u).later exits

/-- A step that leaves the table alone and reserves nothing. -/
theorem aside (sameRuns : after.runs = m.runs)
    (exits : ∀ row, after.Alive row → m.Alive row) (fits : phase.Fits after)
    (held : phase.isHolding = true → ∃ other, q t = .holding other) :
    RunsConsistent ref after (Function.update q t phase) := by
  have earlier : ∀ u row, Function.update q t phase u = .holding row →
      ∃ other, q u = .holding other := by
    intro u row holds
    by_cases same : u = t
    · subst same
      rw [Function.update_self] at holds
      exact held (by rw [holds]; rfl)
    · grind
  refine ⟨?_, consistent.fits_update exits fits, ?_, ?_⟩
  · intro row found alive
    rw [sameRuns] at found
    exact consistent.announced row found (exits row alive)
  · intro u row holds
    obtain ⟨other, heldBefore⟩ := earlier u row holds
    rw [sameRuns]
    exact consistent.reserved u other heldBefore
  · intro u v row other holdsU holdsV
    obtain ⟨_, heldU⟩ := earlier u row holdsU
    obtain ⟨_, heldV⟩ := earlier v other holdsV
    exact consistent.single u v _ _ heldU heldV

/-- A step that leaves the table alone to a phase without a reservation. -/
theorem aside_free (sameRuns : after.runs = m.runs)
    (exits : ∀ row, after.Alive row → m.Alive row) (fits : phase.Fits after)
    (free : phase.isHolding = false) : RunsConsistent ref after (Function.update q t phase) := by
  grind [aside]

/-- Nobody holds a reservation if the row is no reservation. -/
theorem nobody (free : ∀ current, m.runs.lookup ref = some current → current.status ≠ .starting)
    (u : ℕ) (row : Option RunRow) : q u ≠ .holding row := by
  intro holds
  obtain ⟨current, found, isStarting⟩ := consistent.reserved u row holds
  exact free current found isStarting

/-- The row is removed, and nobody else had reserved it. -/
theorem removed (gone : after.runs.lookup ref = none)
    (exits : ∀ row, after.Alive row → m.Alive row) (fits : phase.Fits after)
    (free : phase.isHolding = false) (others : ∀ u row, u ≠ t → q u ≠ .holding row) :
    RunsConsistent ref after (Function.update q t phase) := by
  have nobody : ∀ u row, Function.update q t phase u ≠ .holding row := by
    intro u row
    by_cases same : u = t
    · rw [same, Function.update_self]
      rintro rfl
      cases free
    · grind
  refine ⟨?_, consistent.fits_update exits fits, ?_, ?_⟩
  · intro row found
    rw [gone] at found
    cases found
  · intro u row holds
    exact absurd holds (nobody u row)
  · grind

/-- A call reserves the row. -/
theorem reserves (free : m.runs.lookup ref = none) {current : RunRow}
    (inserted : after.runs.lookup ref = some current) (isStarting : current.status = .starting)
    (exits : ∀ row, after.Alive row → m.Alive row) (fits : phase.Fits after) :
    RunsConsistent ref after (Function.update q t phase) := by
  have others : ∀ u row, Function.update q t phase u = .holding row → u = t := by
    intro u row holds
    by_contra different
    rw [Function.update_of_ne different] at holds
    refine consistent.nobody ?_ u row holds
    grind
  refine ⟨?_, consistent.fits_update exits fits, ?_, ?_⟩
  · intro row found _
    grind
  · grind
  · grind

end

end RunsConsistent

/-! ## Steps of a call -/

/-- A call that has found a left-over row removes the row it has read: nobody has
replaced it meanwhile. -/
def RemovesItsRow (ref : GoString) : RunPhase → (c : RunCommand) → c.Response → RunMachine → Prop
  | .stale row, .deleteRun _, _, m => m.runs.lookup ref = some row
  | _, _, _, _ => True

instance decidableRemovesItsRow (ref : GoString) (phase : RunPhase) (c : RunCommand)
    (response : c.Response) (m : RunMachine) :
    Decidable (RemovesItsRow ref phase c response m) := by
  unfold RemovesItsRow
  split <;> infer_instance

theorem RemovesItsRow.exit {ref : GoString} {phase : RunPhase} {c : RunCommand}
    {response : c.Response} {m : RunMachine}
    (removes : RemovesItsRow ref phase c response m) (pids : List ℤ) :
    RemovesItsRow ref phase c response (m.exit pids) := by
  unfold RemovesItsRow at removes ⊢
  split
  · exact removes
  · trivial

namespace RunsConsistent

variable {ref : GoString} {m after : RunMachine} {q : ℕ → RunPhase} {t : ℕ}

theorem exit (consistent : RunsConsistent ref m q) (pids : List ℤ) :
    RunsConsistent ref (m.exit pids) q := by
  refine ⟨?_, ?_, consistent.reserved, consistent.single⟩
  · intro row found alive
    exact consistent.announced row found alive.of_exit
  · intro u
    exact (consistent.fits u).later fun row alive => alive.of_exit

/-- What a call knows of a row it has just read. -/
theorem fits_ofRow (consistent : RunsConsistent ref m q) {row : RunRow}
    (found : m.runs.lookup ref = some row) : (RunPhase.ofRow row).Fits m := by
  have notAlive : row.status ≠ .ready → row.status ≠ .starting → ¬m.Alive row := by
    intro notReady notStarting alive
    rcases consistent.announced row found alive with isReady | isStarting
    · exact notReady isReady
    · exact notStarting isStarting
  unfold RunPhase.ofRow
  cases status : row.status with
  | ready => exact status
  | starting => trivial
  | degraded | stopped =>
    refine ⟨?_, notAlive ?_ ?_⟩ <;> simp [status]

variable {input : RunInput} {response : Except GoError Unit} {c : RunCommand}

/-- The removal of a row by a call. -/
theorem deletes (consistent : RunsConsistent ref m q)
    (permitted : (runPhases ref).permits (q t) (.deleteRun ref))
    (ran : m.serve input (.deleteRun ref) = some (response, after))
    (removes : RemovesItsRow ref (q t) (.deleteRun ref) response m) :
    RunsConsistent ref after
      (Function.update q t ((runPhases ref).next (q t) (.deleteRun ref) response)) := by
  have exits := fun row => (RunMachine.serve_alive ran row).mp
  simp only [RunMachine.serve] at ran
  cases here : q t with
  | stale row =>
    rw [here] at removes
    have fits := consistent.fits t
    rw [here] at fits
    split at ran
    · cases ran
      exact consistent.aside_free rfl exits trivial rfl
    · cases ran
      refine consistent.removed (m.deleteRun_lookup ref) exits fits.2 rfl ?_
      intro u row' _
      refine consistent.nobody ?_ u row'
      intro current found
      rw [show m.runs.lookup ref = some row from removes] at found
      cases found
      exact fits.1
  | holding row =>
    split at ran
    · cases ran
      exact consistent.aside_free rfl exits trivial rfl
    · cases ran
      refine consistent.removed (m.deleteRun_lookup ref) exits trivial rfl ?_
      intro u other different holds
      exact different (consistent.single u t other row holds here)
  | outside | found _ | cleared _ | finished =>
    rw [here] at permitted
    exact permitted.elim

/-- The insertion of a reservation by a call. -/
theorem inserts (consistent : RunsConsistent ref m q) {kind : GoString}
    (permitted : (runPhases ref).permits (q t) (.reserveRun ref kind))
    (ran : m.serve input (.reserveRun ref kind) = some (response, after)) :
    RunsConsistent ref after (Function.update q t
      ((runPhases ref).next (q t) (.reserveRun ref kind) response)) := by
  have exits := fun row => (RunMachine.serve_alive ran row).mp
  simp only [RunMachine.serve] at ran
  cases here : q t with
  | cleared row =>
    have fits := consistent.fits t
    rw [here] at fits
    split at ran
    · cases ran
      exact consistent.aside_free rfl exits trivial rfl
    split at ran
    · cases ran
      exact consistent.aside_free rfl exits trivial rfl
    · cases ran
      obtain ⟨free, -, inserted⟩ := RunMachine.reserveRun_eq_ok ‹_›
      refine consistent.reserves free inserted rfl exits ?_
      have held : (RunPhase.holding row).Fits m := by
        cases row with
        | none => trivial
        | some row => exact fits
      exact held.later exits
  | outside | found _ | stale _ | holding _ | finished =>
    rw [here] at permitted
    exact permitted.elim

section

variable (consistent : RunsConsistent ref m q) {response : c.Response}
  (permitted : (runPhases ref).permits (q t) c) (ran : m.serve input c = some (response, after))

include consistent permitted ran

/-- The commands that ask and leave the table alone. -/
theorem asks (sameRuns : after.runs = m.runs) (noDelete : ∀ other, c ≠ .deleteRun other)
    (noReserve : ∀ other kind, c ≠ .reserveRun other kind) :
    RunsConsistent ref after (Function.update q t ((runPhases ref).next (q t) c response)) := by
  have exits := fun row => (RunMachine.serve_alive ran row).mp
  have knows := (consistent.fits t).later exits
  cases here : q t with
  | outside =>
    rw [here] at permitted
    cases c with
    | supervisor _ => exact consistent.aside_free sameRuns exits trivial rfl
    | run other =>
      obtain rfl : other = ref := permitted
      cases response with
      | error error => exact consistent.aside_free sameRuns exits trivial rfl
      | ok row =>
        have found : m.runs.lookup other = some row := by
          simp only [RunMachine.serve] at ran
          split at ran
          · cases ran
          · exact RunMachine.run_eq_ok (Prod.mk.inj (Option.some.inj ran)).1
        exact consistent.aside_free sameRuns exits
          ((consistent.fits_ofRow found).later exits) (RunPhase.ofRow_free row)
    | _ => exact permitted.elim
  | found row =>
    rw [here] at permitted
    cases c with
    | processIdentity pid =>
      obtain rfl : pid = row.pid := permitted
      obtain ⟨rfl, rfl⟩ := Prod.mk.inj (Option.some.inj ran)
      rw [here] at knows
      have isReady : row.status = .ready := knows
      simp only [runPhases]
      split
      · exact consistent.aside_free rfl exits trivial rfl
      · refine consistent.aside_free rfl exits ⟨?_, ‹_›⟩ rfl
        simp [isReady]
    | _ => exact permitted.elim
  | holding row =>
    have stays : (runPhases ref).next (.holding row) c response = .holding row := by
      cases c with
      | deleteRun other => exact absurd rfl (noDelete other)
      | _ => rfl
    rw [stays]
    rw [here] at knows
    exact consistent.aside sameRuns exits knows fun _ => ⟨row, here⟩
  | stale _ =>
    rw [here] at permitted
    cases c with
    | deleteRun other => exact absurd rfl (noDelete other)
    | _ => exact permitted.elim
  | cleared _ =>
    rw [here] at permitted
    cases c with
    | reserveRun other kind => exact absurd rfl (noReserve other kind)
    | _ => exact permitted.elim
  | finished =>
    rw [here] at permitted
    exact permitted.elim

/-- **One step of a call** keeps the invariant. -/
theorem step (removes : RemovesItsRow ref (q t) c response m) :
    RunsConsistent ref after (Function.update q t ((runPhases ref).next (q t) c response)) := by
  by_cases isDelete : ∃ other, c = .deleteRun other
  · obtain ⟨other, rfl⟩ := isDelete
    have same : other = ref := by
      cases here : q t <;> rw [here] at permitted
      all_goals first | exact permitted.elim | exact permitted
    subst same
    exact consistent.deletes permitted ran removes
  by_cases isReserve : ∃ other kind, c = .reserveRun other kind
  · obtain ⟨other, kind, rfl⟩ := isReserve
    have same : other = ref := by
      cases here : q t <;> rw [here] at permitted
      all_goals first | exact permitted.elim | exact permitted
    subst same
    exact consistent.inserts permitted ran
  have sameRuns : after.runs = m.runs := by
    rcases RunMachine.serve_runs ran with same | deletes | reserves
    · exact same
    · exact absurd deletes isDelete
    · exact absurd reserves isReserve
  grind [asks]

end

end RunsConsistent

/-! ## Reservations -/

/-- The phase of a call after a history. -/
def runPhaseOf (ref : GoString) (thread : ℕ)
    (history : List (Event RunCall RunCommand RunCommand.Response
      (Except GoError (Option RunRow)) RunMachine)) : RunPhase :=
  (runPhases ref).stateOf (fun _ => .outside) .outside thread history

/-- All calls of a history removed the rows they had read. -/
def RemoveTheirRows (ref : GoString) (history : List (Event RunCall RunCommand RunCommand.Response
      (Except GoError (Option RunRow)) RunMachine)) : Prop :=
  (runPhases ref).Meets (fun _ => .outside) .outside (RemovesItsRow ref) history

instance (ref : GoString) (history : List (Event RunCall RunCommand RunCommand.Response
      (Except GoError (Option RunRow)) RunMachine)) :
    Decidable (RemoveTheirRows ref history) :=
  @Protocol.decidableMeets _ _ _ _ _ _ _ _ _ (decidableRemovesItsRow ref) history

/-- **Reservations exclude each other.**  From every content of the table in which a
row with a live process is ready or starting, in every interleaving of any number of
calls with any failures and any processes that exit, in which the calls remove the
rows they have read: the row that a call with a reservation has read records no live
process, and no two calls hold the reservation. -/
theorem reservations_exclusive (ref : GoString) {m : RunMachine} (announced : m.Announced ref)
    {pool : Pool RunCall RunCommand RunCommand.Response
      (Except GoError (Option RunRow)) RunMachine}
    (reachable : (runCalls ref).Reachable m pool) (removes : RemoveTheirRows ref pool.history) :
    (∀ t row, runPhaseOf ref t pool.history = .holding (some row) → ¬pool.state.Alive row) ∧
    ∀ t u row other, runPhaseOf ref t pool.history = .holding row →
      runPhaseOf ref u pool.history = .holding other → t = u := by
  have consistent : RunsConsistent ref pool.state fun t =>
      (runPhases ref).stateOf (fun _ => .outside) .outside t pool.history := by
    refine reachable.protocol_meets (fun _ _ _ _ _ => trivial)
      (fun call => code_follows call) removes ?_ ?_ ?_
    · refine ⟨announced, fun _ => trivial, ?_, ?_⟩
      · intro t row holds
        cases holds
      · intro t u row other holds
        cases holds
    · intro m q t _ _ consistent
      exact consistent.aside_free rfl (fun _ alive => alive) trivial rfl
    · rintro m q t c response after permitted ⟨input, ran⟩ removes consistent
      exact (consistent.exit input.exited).step permitted ran (removes.exit input.exited)
  refine ⟨?_, consistent.single⟩
  intro t row holds alive
  have fits := consistent.fits t
  rw [show (runPhases ref).stateOf (fun _ => .outside) .outside t pool.history =
    .holding (some row) from holds] at fits
  exact fits alive

/-! ## Runs by hand -/

/-- A row of a runtime with process 7. -/
def runtimeRow (status : RunStatus) : RunRow :=
  { RunMachine.reservation (str "pipe/p") (str "pipe") .zero with
    pid := 7, processIdentity := str "7:Sun tubo", status }

/-- A machine with such a row; the process may be alive. -/
def machineWith (status : RunStatus) (output : Option GoString) : RunMachine where
  runs := (∅ : Table GoString RunRow).insert (str "pipe/p") (runtimeRow status)
  processes pid := if pid = 7 then output else none

/-- Steps without failures.  With a row that is not ready `reserveForeground` has
four: the supervisor, the row, its removal, the reservation. -/
def unfailing (thread count : ℕ) : List (Decision RunCall RunInput) :=
  List.replicate count (.move thread {})

def foregroundCall : Decision RunCall RunInput :=
  .spawn (.foreground [] (str "pipe"))

theorem perform_runCalls (m : RunMachine) (script : List (Decision RunCall RunInput))
    (holds : Pool RunCall RunCommand RunCommand.Response
      (Except GoError (Option RunRow)) RunMachine → Prop) [DecidablePred holds]
    (computed : (perform (runCalls (str "pipe/p")) RunMachine.execute
      (fun _ _ => true) script (Pool.start m)).any (fun pool => holds pool) = true) :
    ∃ pool, (runCalls (str "pipe/p")).Reachable m pool ∧ holds pool := by
  obtain ⟨pool, performed, facts⟩ := (Option.any_eq_true _ _).mp computed
  refine ⟨pool, perform_reachable ?_ (fun _ _ _ => trivial)
    (System.Reachable.start _) performed, of_decide_eq_true facts⟩
  intro input c m response after attempted
  exact ⟨input, attempted⟩

/-- **Reservations do not exclude.**  A degraded process is alive when its row is
replaced by a reservation; and two calls that both read the row of a stopped process
both hold a reservation. -/
theorem reservations_not_exclusive : (∃ pool, (runCalls (str "pipe/p")).Reachable
        (machineWith .degraded (some (str "Sun tubo"))) pool ∧
      runPhaseOf (str "pipe/p") 0 pool.history = .holding (some (runtimeRow .degraded)) ∧
      pool.state.Alive (runtimeRow .degraded)) ∧
    ∃ pool, (runCalls (str "pipe/p")).Reachable (machineWith .stopped none) pool ∧
      runPhaseOf (str "pipe/p") 0 pool.history = .holding (some (runtimeRow .stopped)) ∧
      runPhaseOf (str "pipe/p") 1 pool.history = .holding (some (runtimeRow .stopped)) := by
  constructor
  · apply perform_runCalls _ (foregroundCall :: unfailing 0 4)
    decide +kernel
  · apply perform_runCalls _ (foregroundCall :: foregroundCall ::
      (unfailing 0 2 ++ unfailing 1 2 ++ unfailing 0 2 ++ unfailing 1 2))
    decide +kernel

theorem reservations_exclusive_alone :
    ∃ pool, (runCalls (str "pipe/p")).Reachable (machineWith .stopped none) pool ∧
      runPhaseOf (str "pipe/p") 0 pool.history = .holding (some (runtimeRow .stopped)) ∧
      ¬pool.state.Alive (runtimeRow .stopped) := by
  obtain ⟨pool, reachable, removes, holds⟩ := perform_runCalls
    (machineWith .stopped none) (foregroundCall :: foregroundCall :: (unfailing 0 4 ++ unfailing 1 2))
    (fun pool => RemoveTheirRows (str "pipe/p") pool.history ∧
      runPhaseOf (str "pipe/p") 0 pool.history = .holding (some (runtimeRow .stopped)))
    (by decide +kernel)
  have announced : (machineWith .stopped none).Announced (str "pipe/p") := by
    intro row found alive
    unfold RunMachine.Alive RunMachine.processIdentity at alive
    have noOutput : (machineWith .stopped none).processes row.pid = none := by
      simp [machineWith]
    grind
  exact ⟨pool, reachable, holds,
    (reservations_exclusive (str "pipe/p") announced reachable removes).1 0 _ holds⟩

end Tubo
