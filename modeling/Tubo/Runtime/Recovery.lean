import Tubo.Runtime.Downstream

/-!
# Recovery of the remote endpoint

Package `internal/runtime`, file `pipe.go`: the resolver that the connections of a local
Pipe share with a periodic refresh, `serveLocalConnectionWithOpener` and the whole of
`openLocalConnection`.

`Runtime/Downstream.lean` takes a call of `resolve` as one step.  Here it is the sequence of
its steps: `refreshMu` is a lock that is held across the fetch, and the record is read and
replaced under `mu`, one access at a time, between which the others go on.

* `resolve_run` — without interference the steps compute `RecordResolver.resolve`;
* `recovery_monotone_bounded` — in every interleaving the record only moves up, and a
  connection opens at most twice, the second time with a newer record.
-/

namespace Tubo

open Concurrency

/-! ## Steps -/

/-- One access to the resolver, a step of an opener, or the start of an attempt: the call of
the opener with a record. -/
inductive RecoveryCommand
  | lockRefresh
  | unlockRefresh
  | now
  | lastRecovery
  | setLastRecovery (now : Time)
  | current
  | fetch (scope : GoString)
  | replace (candidate : PipeRecord)
  | attempt (record : PipeRecord)
  | opener (command : OpenerCommand)
  | newSession (sessionID pipeID scope : GoString)
  | setActiveCarrier
  | runClientSession

@[reducible]
def RecoveryCommand.Response : RecoveryCommand → Type
  | .now => Time
  | .lastRecovery => Time
  | .current => PipeRecord
  | .fetch _ => Except GoError (List PipeRecord)
  | .replace _ => Bool
  | .opener command => command.Response
  | .newSession .. => Except GoError Unit
  | .setActiveCarrier => Bool
  | _ => Unit

abbrev RecoveryProgram (α : Type) :=
  Program RecoveryCommand RecoveryCommand.Response α

abbrev RecoveryExchange := Exchange RecoveryCommand RecoveryCommand.Response

/-! ## `resolve` -/

/-- The deferred `refreshMu.Unlock`. -/
def unlocking (result : Except GoError Bool) : RecoveryProgram (Except GoError Bool) :=
  .call .unlockRefresh fun () => .done result

/-- What `resolve` does with the fetched records. -/
def judge (current : PipeRecord) (records : List PipeRecord) :
    RecoveryProgram (Except GoError Bool) :=
  match records.find? (·.pipeID == current.pipeID) with
  | none => unlocking (.error (errorsNew
      "pipe_unreachable: record absent from authoritative snapshot"))
  | some candidate =>
    if candidate.scope ≠ current.scope ∨ candidate.sequence < current.sequence then
      unlocking (.error (errorsNew "invalid discovered record: replayed remote pipe record"))
    else if candidate.sequence = current.sequence then
      if sameEndpoint candidate current then unlocking (.ok false)
      else unlocking (.error (errorsNew ("invalid discovered record: " ++
        "conflicting remote pipe record sequence")))
    else .call (.replace candidate) fun changed => unlocking (.ok changed)

/-- `resolve`, after the cooldown. -/
def refresh : RecoveryProgram (Except GoError Bool) :=
  .call .current fun current =>
    .call (.fetch current.scope.string) fun
      | .error error => unlocking (.error error)
      | .ok records => judge current records

/-- `resolve`. -/
def resolve (recovery : Bool) : RecoveryProgram (Except GoError Bool) :=
  .call .lockRefresh fun () =>
    .call .now fun now =>
      .call .lastRecovery fun lastRecovery =>
        if recovery ∧ now.sub lastRecovery < localPipeRecoveryCooldown then
          unlocking (.ok false)
        else if recovery then .call (.setLastRecovery now) fun () => refresh
        else refresh

/-! ## Connections -/

/-- `localConnectionResult`. -/
structure LocalConnectionResult where
  opened : Bool
  transient : Bool
  reason : String

section Connection

variable (prim : Primitives) (spec : PipeSpec)

/-- `openLocalConnection` after the OK result: a session that cannot start makes the
attempt a failure, which is not transient. -/
def openSession (record : PipeRecord) (result : OpenResult) :
    RecoveryProgram LocalConnectionResult :=
  .call (.newSession result.sessionID record.pipeID record.scope.string) fun
    | .error _ => .done ⟨false, false, "tunnel_handshake_failed"⟩
    | .ok () =>
      .call .setActiveCarrier fun carried =>
        if carried then
          .call .runClientSession fun () => .done ⟨true, false, "tunnel_handshake_failed"⟩
        else .done ⟨false, false, "tunnel_handshake_failed"⟩

/-- The setup of `openLocalConnection`. -/
def setUpTunnel (record : PipeRecord) : RecoveryProgram (Except TunnelFailure OpenResult) :=
  (openLocalConnection prim spec record).relabel .opener fun _ response => response

/-- `openLocalConnection`. -/
def openLocalConnectionResult (record : PipeRecord) : RecoveryProgram LocalConnectionResult :=
  (setUpTunnel prim spec record).bind fun
    | .error failure => .done ⟨false, failure.transient, failure.reason⟩
    | .ok result => openSession record result

/-- The loop of `serveLocalConnectionWithOpener`, with the number of attempts that are
left. -/
def serveAttempts : ℕ → RecoveryProgram Unit
  | 0 => .done ()
  | left + 1 =>
    .call .current fun record =>
      .call (.attempt record) fun () =>
        (openLocalConnectionResult prim spec record).bind fun result =>
          if result.opened then .done ()
          else if ¬result.transient ∨ left = 0 then .done ()
          else
            (resolve true).bind fun
              | .ok true => serveAttempts left
              | _ => .done ()

/-- A connection, or one tick of `periodicallyResolve`. -/
inductive RecoveryJob
  | connection
  | periodic

def RecoveryJob.code : RecoveryJob → RecoveryProgram Unit
  | .connection => serveAttempts prim spec 2
  | .periodic => (resolve false).bind fun _ => .done ()

end Connection

/-! ## Interleavings -/

/-- The resolver and its lock. -/
structure SharedResolver extends RecordResolver where
  refreshLocked : Bool

/-- What a step may do.  A fetch, a clock reading and an opener may answer anything; a lock
that is held cannot be taken. -/
def SharedResolver.exec : (c : RecoveryCommand) → SharedResolver → c.Response →
    SharedResolver → Prop
  | .lockRefresh, s, _, after =>
    s.refreshLocked = false ∧ after = { s with refreshLocked := true }
  | .unlockRefresh, s, _, after => after = { s with refreshLocked := false }
  | .lastRecovery, s, answer, after => answer = s.lastRecovery ∧ after = s
  | .setLastRecovery now, s, _, after => after = { s with lastRecovery := now }
  | .current, s, answer, after => answer = s.record ∧ after = s
  | .replace candidate, s, changed, after =>
    if s.record.sequence < candidate.sequence then
      changed = true ∧ after = { s with record := candidate }
    else changed = false ∧ after = s
  | .now, s, _, after => after = s
  | .fetch _, s, _, after => after = s
  | .attempt _, s, _, after => after = s
  | .opener _, s, _, after => after = s
  | .newSession .., s, _, after => after = s
  | .setActiveCarrier, s, _, after => after = s
  | .runClientSession, s, _, after => after = s

/-- Any number of connections and of periodic refreshes, at any time. -/
def recoverySystem (prim : Primitives) (spec : PipeSpec) :
    System RecoveryJob RecoveryCommand RecoveryCommand.Response Unit SharedResolver where
  code := RecoveryJob.code prim spec
  exec := SharedResolver.exec
  admits _ _ := True

/-! ## One call alone -/

/-- The answers to steps that nobody interferes with, at one time of the clock and with one
result of the fetch. -/
def SharedResolver.alone (clock : Time) (fetched : Except GoError (List PipeRecord))
    (answers : (c : OpenerCommand) → c.Response) :
    (c : RecoveryCommand) → SharedResolver → c.Response × SharedResolver
  | .lockRefresh, s => ((), { s with refreshLocked := true })
  | .unlockRefresh, s => ((), { s with refreshLocked := false })
  | .now, s => (clock, s)
  | .lastRecovery, s => (s.lastRecovery, s)
  | .setLastRecovery now, s => ((), { s with lastRecovery := now })
  | .current, s => (s.record, s)
  | .fetch _, s => (fetched, s)
  | .replace candidate, s =>
    if s.record.sequence < candidate.sequence then
      (true, { s with record := candidate })
    else (false, s)
  | .attempt _, s => ((), s)
  | .opener command, s => (answers command, s)
  | .newSession .., s => (.ok (), s)
  | .setActiveCarrier, s => (true, s)
  | .runClientSession, s => ((), s)

section Alone

variable (clock : Time) (fetched : Except GoError (List PipeRecord))
  (answers : (c : OpenerCommand) → c.Response)

end Alone

/-! ## What a thread has done -/

/-- The records of the attempts of a thread. -/
def attempts (own : List RecoveryExchange) : List PipeRecord :=
  own.filterMap fun
    | ⟨.attempt record, _⟩ => some record
    | _ => none

/-- A tunnel was opened: its result was OK. -/
def OpenedOK (own : List RecoveryExchange) : Prop :=
  ∃ result : OpenResult, result.ok = true ∧ ⟨.opener .readResult, .ok result⟩ ∈ own

/-- A step of the setup failed that may succeed at another endpoint. -/
def OpenerCommand.FailsTransiently : (c : OpenerCommand) → c.Response → Prop
  | .dialPeer _, response => ∃ error, response = .error error
  | .newStream _, response => ∃ error, response = .error error
  | .writeHello _, response => ∃ error, response = .error error
  | .readServerHello, response => ∃ error, response = .error error
  | .writeOpen _, response => ∃ error, response = .error error
  | .readResult, response => ∃ error, response = .error error
  | _, _ => False

def FailedTransiently (own : List RecoveryExchange) : Prop :=
  ∃ (c : OpenerCommand) (response : c.Response),
    c.FailsTransiently response ∧ ⟨.opener c, response⟩ ∈ own

/-! ### The setup of a tunnel -/

/-- The exchanges of a setup have no OK result yet. -/
def QuietSetup (asked : List OpenerExchange) : Prop :=
  ¬∃ result : OpenResult, result.ok = true ∧ ⟨.readResult, .ok result⟩ ∈ asked

/-- A setup that failed had no OK result, and it counts as transient only if one of its
steps failed so. -/
def SetupEnds (asked : List OpenerExchange) (outcome : Except TunnelFailure OpenResult) : Prop :=
  ∀ failure, outcome = .error failure → QuietSetup asked ∧ (failure.transient = true →
      ∃ (c : OpenerCommand) (response : c.Response),
        c.FailsTransiently response ∧ ⟨c, response⟩ ∈ asked)

section Setup

variable {asked : List OpenerExchange}

theorem QuietSetup.step {c : OpenerCommand} (quiet : QuietSetup asked) (response : c.Response)
    (other : c ≠ .readResult) : QuietSetup (asked ++ [⟨c, response⟩]) := by
  rintro ⟨result, isOK, member⟩
  rcases List.mem_append.mp member with old | new
  · exact quiet ⟨result, isOK, old⟩
  · exact other (congrArg Exchange.command (List.mem_singleton.mp new)).symm

/-- A setup goes on quietly after any step but the last. -/
theorem QuietSetup.call {α : Type} {c : OpenerCommand} {next : c.Response → OpenerProgram α}
    {post : List OpenerExchange → α → Prop} (quiet : QuietSetup asked) (other : c ≠ .readResult)
    (rest : ∀ response, QuietSetup (asked ++ [⟨c, response⟩]) →
      (next response).Always (fun _ _ => True) post (asked ++ [⟨c, response⟩])) :
    (Program.call c next).Always (fun _ _ => True) post asked :=
  ⟨trivial, fun response => rest response (quiet.step response other)⟩

/-- A result that is not OK leaves the exchanges quiet. -/
theorem QuietSetup.result (quiet : QuietSetup asked) {answer : Except GoError OpenResult}
    (refused : ∀ result, answer = .ok result → result.ok = false) :
    QuietSetup (asked ++ [⟨.readResult, answer⟩]) := by
  rintro ⟨result, isOK, member⟩
  rcases List.mem_append.mp member with old | new
  · exact quiet ⟨result, isOK, old⟩
  · grind

/-- A setup that ends for a reason of its own. -/
theorem SetupEnds.permanent (quiet : QuietSetup asked) {failure : TunnelFailure}
    (permanent : failure.transient = false) : SetupEnds asked (.error failure) := by
  rintro other ⟨⟩
  grind

/-- A setup that ends with a step that failed. -/
theorem SetupEnds.transient {c : OpenerCommand} {response : c.Response}
    (quiet : QuietSetup (asked ++ [⟨c, response⟩])) (failed : c.FailsTransiently response)
    {failure : TunnelFailure} : SetupEnds (asked ++ [⟨c, response⟩]) (.error failure) := by
  rintro other ⟨⟩
  exact ⟨quiet, fun _ => ⟨c, response, failed, List.mem_append_right _ (List.mem_singleton_self _)⟩⟩

theorem SetupEnds.opened (result : OpenResult) : SetupEnds asked (.ok result) := by
  rintro failure ⟨⟩

variable (prim : Primitives) (record : PipeRecord) (visited : List GoString) (hopLimit : ℤ)

theorem acquireLease_ends (quiet : QuietSetup asked) :
    (acquireLease record).Always (fun _ _ => True) (fun asked lease => QuietSetup asked ∧
        ∀ failure, lease = .error failure → failure.transient = false) asked := by
  have refused : ∀ {asked : List OpenerExchange} (error : GoError), QuietSetup asked →
      QuietSetup asked ∧ ∀ failure, (.error (.lease error) : Except TunnelFailure GoString) =
        .error failure → failure.transient = false := by
    rintro asked error quiet
    refine ⟨quiet, ?_⟩
    rintro failure ⟨⟩
    rfl
  refine quiet.call (by rintro ⟨⟩) ?_
  rintro (_ | ⟨access, refresh⟩) quiet
  · refine quiet.call (by rintro ⟨⟩) ?_
    rintro (error | ⟨access, refresh⟩) quiet
    · exact refused error quiet
    refine quiet.call (by rintro ⟨⟩) ?_
    rintro (error | ⟨⟩) quiet
    · exact refused error quiet
    refine quiet.call (by rintro ⟨⟩) ?_
    rintro (error | ⟨⟩) quiet
    · exact refused error quiet
    · exact ⟨quiet, by rintro failure ⟨⟩⟩
  · exact ⟨quiet, by rintro failure ⟨⟩⟩

theorem exchangeFrames_ends (lease : GoString) (secret : Bytes) (quiet : QuietSetup asked) :
    (exchangeFrames prim record visited hopLimit lease secret).Always (fun _ _ => True)
      SetupEnds asked := by
  refine quiet.call (by rintro ⟨⟩) ?_
  rintro (error | ⟨⟩) quiet
  · exact .transient quiet ⟨error, rfl⟩
  refine quiet.call (by rintro ⟨⟩) ?_
  rintro (error | server) quiet
  · exact .transient quiet ⟨error, rfl⟩
  dsimp only
  split
  · exact .permanent quiet rfl
  refine quiet.call (by rintro ⟨⟩) ?_
  rintro (error | ⟨⟩) quiet
  · exact .transient quiet ⟨error, rfl⟩
  refine ⟨trivial, ?_⟩
  rintro (error | result)
  · exact .transient (quiet.result (by rintro result ⟨⟩)) ⟨error, rfl⟩
  dsimp only
  split
  · exact .opened result
  · rename_i refused
    refine .permanent (quiet.result ?_) rfl
    rintro _ ⟨⟩
    simpa using refused

/-- How a setup ends, whatever its steps answer. -/
theorem openTunnel_ends (quiet : QuietSetup asked) :
    (openTunnel prim record visited hopLimit).Always (fun _ _ => True) SetupEnds asked := by
  refine Program.Always.bind ((acquireLease_ends record quiet).mono ?_)
  rintro asked (failure | lease) ⟨quiet, permanent⟩
  · exact .permanent quiet (permanent failure rfl)
  refine quiet.call (by rintro ⟨⟩) ?_
  intro _ quiet
  split
  · exact .permanent quiet rfl
  refine quiet.call (by rintro ⟨⟩) ?_
  rintro (error | peer) quiet
  · exact .transient quiet ⟨error, rfl⟩
  refine quiet.call (by rintro ⟨⟩) ?_
  rintro (error | ⟨⟩) quiet
  · exact .transient quiet ⟨error, rfl⟩
  refine quiet.call (by rintro ⟨⟩) ?_
  rintro (error | membership) quiet
  · exact .permanent quiet rfl
  refine quiet.call (by rintro ⟨⟩) ?_
  rintro (error | secret) quiet
  · exact .permanent quiet rfl
  exact exchangeFrames_ends prim record visited hopLimit lease secret quiet

end Setup

/-! ### What a thread may ask -/

/-- A record that was read after the record of an attempt had been replaced. -/
def Renewed (own : List RecoveryExchange) (first record : PipeRecord) : Prop :=
  ∃ before candidate between,
    own = before ++ ⟨.replace candidate, true⟩ :: (between ++ [⟨.current, record⟩]) ∧
      ⟨.current, first⟩ ∈ before

/-- An attempt with a record is in order: it is the first one, or the second one after a
transient failure and with a renewed record; and no tunnel was opened before. -/
structure AttemptAllowed (own : List RecoveryExchange) (record : PipeRecord) : Prop where
  unopened : ¬OpenedOK own
  bounded : attempts own = [] ∨ ∃ first, attempts own = [first] ∧ FailedTransiently own ∧
    Renewed own first record

/-- What a thread may do after what it has done: a record is replaced by one of the same Pipe
and Scope as a record that was read. -/
def RecoveryAsks (own : List RecoveryExchange) : RecoveryCommand → Prop
  | .attempt record => AttemptAllowed own record
  | .replace candidate => ∃ current, ⟨.current, current⟩ ∈ own ∧
      candidate.pipeID = current.pipeID ∧ candidate.scope = current.scope
  | _ => True

/-- A step that neither starts an attempt nor belongs to one. -/
def RecoveryCommand.Silent : RecoveryCommand → Prop
  | .attempt _ => False
  | .opener _ => False
  | _ => True

/-- A thread goes on without attempts. -/
structure GoesOn (own later : List RecoveryExchange) : Prop where
  grows : own <+: later
  attempts : attempts later = attempts own
  unopened : OpenedOK later → OpenedOK own

section GoesOn

variable {own later : List RecoveryExchange}

theorem GoesOn.refl (own : List RecoveryExchange) : GoesOn own own :=
  ⟨List.prefix_rfl, rfl, id⟩

theorem attempts_append (first second : List RecoveryExchange) :
    attempts (first ++ second) = attempts first ++ attempts second :=
  List.filterMap_append

theorem GoesOn.step {c : RecoveryCommand} (goesOn : GoesOn own later)
    (silent : c.Silent) (response : c.Response) :
    GoesOn own (later ++ [⟨c, response⟩]) where
  grows := goesOn.grows.trans (List.prefix_append _ _)
  attempts := by
    have none : Tubo.attempts [⟨c, response⟩] = [] := by
      cases c with
      | attempt record => exact silent.elim
      | _ => rfl
    rw [attempts_append, none, List.append_nil, goesOn.attempts]
  unopened := by
    rintro ⟨result, isOK, member⟩
    rcases List.mem_append.mp member with old | new
    · exact goesOn.unopened ⟨result, isOK, old⟩
    · have same : RecoveryCommand.opener .readResult = c :=
        congrArg Exchange.command (List.mem_singleton.mp new)
      subst same
      exact silent.elim

theorem GoesOn.call {α : Type} {c : RecoveryCommand} {next : c.Response → RecoveryProgram α}
    {post : List RecoveryExchange → α → Prop} (goesOn : GoesOn own later)
    (silent : c.Silent) (asks : RecoveryAsks later c)
    (rest : ∀ response, GoesOn own (later ++ [⟨c, response⟩]) →
      (next response).Always RecoveryAsks post (later ++ [⟨c, response⟩])) :
    (Program.call c next).Always RecoveryAsks post later :=
  ⟨asks, fun response => rest response (goesOn.step silent response)⟩

/-- How a call of `resolve` ends: it makes no attempt, and it reports a change only right
after it replaced the record. -/
structure ResolveEnds (own later : List RecoveryExchange) (result : Except GoError Bool) :
    Prop where
  goesOn : GoesOn own later
  replaced : result = .ok true → ∃ before candidate,
    later = before ++ [⟨.replace candidate, true⟩, ⟨.unlockRefresh, ()⟩] ∧ own <+: before

theorem unlocking_ends {result : Except GoError Bool} (goesOn : GoesOn own later)
    (unchanged : result ≠ .ok true) :
    (unlocking result).Always RecoveryAsks (ResolveEnds own) later := by
  refine goesOn.call trivial trivial fun _ goesOn => ⟨goesOn, ?_⟩
  exact fun changed => absurd changed unchanged

theorem judge_ends (goesOn : GoesOn own later) {current : PipeRecord}
    (read : ⟨.current, current⟩ ∈ later) (records : List PipeRecord) :
    (judge current records).Always RecoveryAsks (ResolveEnds own) later := by
  unfold judge
  split
  · exact unlocking_ends goesOn (by rintro ⟨⟩)
  rename_i candidate found
  split
  · exact unlocking_ends goesOn (by rintro ⟨⟩)
  rename_i fits
  split
  · split
    · exact unlocking_ends goesOn (by rintro ⟨⟩)
    · exact unlocking_ends goesOn (by rintro ⟨⟩)
  · have samePipe : candidate.pipeID = current.pipeID := by
      simpa using List.find?_some found
    have sameScope : candidate.scope = current.scope :=
      not_not.mp (not_or.mp fits).1
    refine goesOn.call trivial ⟨current, read, samePipe, sameScope⟩ fun changed after => ?_
    refine after.call trivial trivial fun _ after => ⟨after, ?_⟩
    grind [GoesOn.grows]

theorem refresh_ends (goesOn : GoesOn own later) :
    refresh.Always RecoveryAsks (ResolveEnds own) later := by
  refine goesOn.call trivial trivial fun current goesOn => ?_
  refine goesOn.call trivial trivial ?_
  grind [unlocking_ends, judge_ends]

theorem resolve_ends (recovery : Bool) :
    (resolve recovery).Always RecoveryAsks (ResolveEnds own) own := by
  refine (GoesOn.refl own).call trivial trivial fun _ goesOn => ?_
  refine goesOn.call trivial trivial fun now goesOn => ?_
  refine goesOn.call trivial trivial fun lastRecovery goesOn => ?_
  split
  · exact unlocking_ends goesOn (by rintro ⟨⟩)
  split
  · refine goesOn.call trivial trivial fun _ goesOn => ?_
    exact refresh_ends goesOn
  · exact refresh_ends goesOn

end GoesOn

section Connection

variable (prim : Primitives) (spec : PipeSpec) {own : List RecoveryExchange}

/-- The exchanges of an opener, among those of a connection. -/
def ofOpener (asked : List OpenerExchange) : List RecoveryExchange :=
  asked.map (Exchange.lift .opener fun _ response => response)

theorem attempts_ofOpener (asked : List OpenerExchange) : attempts (ofOpener asked) = [] := by
  rw [attempts, ofOpener, List.filterMap_map, List.filterMap_eq_nil_iff]
  intro exchange _
  rfl

theorem not_openedOK_ofOpener {asked : List OpenerExchange} (quiet : QuietSetup asked) :
    ¬OpenedOK (ofOpener asked) := by
  rintro ⟨result, isOK, member⟩
  obtain ⟨⟨c, response⟩, isAsked, same⟩ := List.mem_map.mp member
  obtain ⟨sameCommand, sameResponse⟩ := Exchange.mk.inj same
  obtain rfl := RecoveryCommand.opener.inj sameCommand
  obtain rfl := eq_of_heq sameResponse
  exact quiet ⟨result, isOK, isAsked⟩

theorem failedTransiently_ofOpener {asked : List OpenerExchange} {c : OpenerCommand}
    {response : c.Response} (failed : c.FailsTransiently response)
    (member : ⟨c, response⟩ ∈ asked) : FailedTransiently (ofOpener asked) :=
  ⟨c, response, failed, List.mem_map_of_mem member⟩

theorem openedOK_append {first second : List RecoveryExchange} :
    OpenedOK (first ++ second) ↔ OpenedOK first ∨ OpenedOK second := by
  constructor
  · rintro ⟨result, isOK, member⟩
    rcases List.mem_append.mp member with isFirst | isSecond
    · exact .inl ⟨result, isOK, isFirst⟩
    · exact .inr ⟨result, isOK, isSecond⟩
  · rintro (⟨result, isOK, member⟩ | ⟨result, isOK, member⟩)
    · exact ⟨result, isOK, List.mem_append_left _ member⟩
    · exact ⟨result, isOK, List.mem_append_right _ member⟩

theorem FailedTransiently.mono {more : List RecoveryExchange}
    (failed : FailedTransiently own) (subset : own ⊆ more) : FailedTransiently more := by
  obtain ⟨c, response, isFailure, member⟩ := failed
  exact ⟨c, response, isFailure, subset member⟩

/-- A connection begins by reading a record and calling the opener with it. -/
theorem not_openedOK_start (record : PipeRecord) :
    ¬OpenedOK ([] ++ [⟨.current, record⟩] ++ [⟨.attempt record, ()⟩]) := by
  rintro ⟨result, -, member⟩
  simp at member

/-- How an attempt ends: a transient failure comes without an OK result. -/
def OpenEnds (own later : List RecoveryExchange) (result : LocalConnectionResult) : Prop :=
  result.transient = true → ∃ asked, later = own ++ ofOpener asked ∧ QuietSetup asked ∧
    FailedTransiently (ofOpener asked)

theorem openLocalConnectionResult_ends (record : PipeRecord) :
    (openLocalConnectionResult prim spec record).Always RecoveryAsks (OpenEnds own) own := by
  have nothing : QuietSetup [] := by
    rintro ⟨result, -, member⟩
    cases member
  refine Program.Always.bind (Program.Always.relabel RecoveryCommand.opener
    (fun _ response => response) (fun _ _ => rfl) own
    (openTunnel_ends prim record [spec.pipeID] defaultMaxPipeHops nothing)
    (List.append_nil own).symm (fun _ _ _ => trivial) ?_)
  rintro asked (failure | result) ends
  · obtain ⟨quiet, isTransient⟩ := ends failure rfl
    intro transient
    obtain ⟨c, response, failed, member⟩ := isTransient transient
    exact ⟨asked, rfl, quiet, failedTransiently_ofOpener failed member⟩
  · refine ⟨trivial, ?_⟩
    rintro (error | ⟨⟩)
    · rintro ⟨⟩
    refine ⟨trivial, fun carried => ?_⟩
    cases carried with
    | false => rintro ⟨⟩
    | true => exact ⟨trivial, fun _ => by rintro ⟨⟩⟩

/-- The last attempt needs only its permission. -/
theorem serveAttempts_last
    (allowed : ∀ record, AttemptAllowed (own ++ [⟨.current, record⟩]) record) :
    (serveAttempts prim spec 1).Always RecoveryAsks (fun _ _ => True) own := by
  refine ⟨trivial, fun record => ⟨allowed record, fun _ => ?_⟩⟩
  refine Program.Always.bind ((openLocalConnectionResult_ends prim spec record).mono ?_)
  intro later result _
  split
  · trivial
  · rw [if_pos (Or.inr rfl)]
    trivial

/-- A connection makes its attempts in order. -/
theorem serveAttempts_asks :
    (serveAttempts prim spec 2).Always RecoveryAsks (fun _ _ => True) [] := by
  refine ⟨trivial, fun first => ⟨⟨?_, .inl rfl⟩, fun _ => ?_⟩⟩
  · rintro ⟨result, -, member⟩
    cases List.mem_singleton.mp member
  refine Program.Always.bind ((openLocalConnectionResult_ends prim spec first).mono ?_)
  intro later result ends
  split
  · trivial
  split
  · trivial
  rename_i again
  have transient : result.transient = true := by
    simpa using (not_or.mp again).1
  obtain ⟨asked, rfl, quiet, failed⟩ := ends transient
  refine Program.Always.bind ((resolve_ends true).mono ?_)
  rintro later (error | changed) resolved
  · trivial
  cases changed with
  | false => trivial
  | true =>
    obtain ⟨before, candidate, isLater, grows⟩ := resolved.replaced rfl
    refine serveAttempts_last prim spec fun record => ?_
    have goesOn := resolved.goesOn.step (show RecoveryCommand.Silent .current from trivial)
      record
    refine ⟨fun opened => ?_, .inr ⟨first, ?_, ?_, ?_⟩⟩
    · rcases openedOK_append.mp (goesOn.unopened opened) with started | setUp
      · exact not_openedOK_start first started
      · exact not_openedOK_ofOpener quiet setUp
    · rw [goesOn.attempts, attempts_append, attempts_ofOpener]
      rfl
    · grind [FailedTransiently.mono]
    · refine ⟨before, candidate, [⟨.unlockRefresh, ()⟩], ?_, grows.subset ?_⟩
      · rw [isLater, List.append_assoc]
        rfl
      · exact List.mem_append_left _ (List.mem_append_left _ (List.mem_singleton_self _))

theorem RecoveryJob.code_asks (job : RecoveryJob) :
    (job.code prim spec).Always RecoveryAsks (fun _ _ => True) [] := by
  cases job with
  | connection => exact serveAttempts_asks prim spec
  | periodic =>
    refine Program.Always.bind ((resolve_ends false).mono ?_)
    intro later result _
    trivial

end Connection

/-! ## All interleavings -/

/-- The record stays one of the same Pipe and Scope, and its sequence number does not
decrease. -/
structure SharedResolver.Advances (s after : SharedResolver) : Prop where
  pipeID : after.record.pipeID = s.record.pipeID
  scope : after.record.scope = s.record.scope
  sequence : s.record.sequence ≤ after.record.sequence

variable {c : RecoveryCommand} {s after : SharedResolver} {response : c.Response}

/-- Only a replacement changes the record, and only to a newer one. -/
theorem SharedResolver.exec_record (effect : SharedResolver.exec c s response after) :
    after.record = s.record ∨
      (c = .replace after.record ∧ s.record.sequence < after.record.sequence) := by
  cases c with
  | replace candidate =>
    grind [SharedResolver.exec]
  | lockRefresh | lastRecovery | current =>
    obtain ⟨-, rfl⟩ := effect
    exact .inl rfl
  | _ =>
    obtain rfl := effect
    exact .inl rfl

theorem SharedResolver.exec_sequence (effect : SharedResolver.exec c s response after) :
    s.record.sequence ≤ after.record.sequence := by
  grind [SharedResolver.exec_record]

/-- A replacement that reports a change made the record newer. -/
theorem SharedResolver.exec_replace {candidate : PipeRecord}
    (effect : SharedResolver.exec (.replace candidate) s true after) :
    s.record.sequence < after.record.sequence := by
  grind [SharedResolver.exec]

section Interleavings

variable {prim : Primitives} {spec : PipeSpec} {start : SharedResolver}
  {pool : Pool RecoveryJob RecoveryCommand RecoveryCommand.Response Unit SharedResolver}

/-- The record is one of this Pipe and Scope. -/
def SharedResolver.Names (start s : SharedResolver) : Prop :=
  s.record.pipeID = start.record.pipeID ∧ s.record.scope = start.record.scope

/-- In every interleaving the record keeps its Pipe and its Scope: a candidate has those of
a record that its thread read before. -/
theorem recovery_names (reachable : (recoverySystem prim spec).Reachable start pool) :
    start.Names pool.state ∧
      ∀ event ∈ pool.history, start.Names event.before ∧ start.Names event.after := by
  induction reachable with
  | refl => exact ⟨⟨rfl, rfl⟩, by simp [Pool.start]⟩
  | tail earlier step ih =>
    rename_i before after
    obtain ⟨current, past⟩ := ih
    have follows := System.Reachable.follows earlier (RecoveryJob.code_asks prim spec)
    have extend : ∀ {thread action} {next : SharedResolver}, start.Names next →
        start.Names next ∧ ∀ event ∈ (before.toWorld.record thread action next).history,
          start.Names event.before ∧ start.Names event.after := by
      intro thread action next names
      refine ⟨names, fun event member => ?_⟩
      rcases List.mem_append.mp member with old | new
      · exact past event old
      · grind
    cases step with
    | spawn _ | finish _ => exact extend current
    | move ready effect =>
      refine extend ?_
      rcases SharedResolver.exec_record effect with same | ⟨rfl, -⟩
      · rw [World.record_state, SharedResolver.Names, same]
        exact current
      · obtain ⟨job, -, always⟩ := follows.threads _ _ ready
        obtain ⟨read, member, samePipe, sameScope⟩ := always.1
        obtain ⟨event, isEvent, -, -, answered, -⟩ :=
          System.Reachable.exec_of_exchange earlier member
        obtain ⟨pipe, scope⟩ := (past event isEvent).1
        rw [← answered] at pipe scope
        exact ⟨samePipe.trans pipe, sameScope.trans scope⟩

theorem recovery_ordered (reachable : (recoverySystem prim spec).Reachable start pool) :
    System.Ordered (fun s after => s.record.sequence ≤ after.record.sequence) start
      pool.toWorld := by
  refine reachable.ordered (fun s => ?_) (fun first second => ?_) fun c s r after effect => ?_
  · exact le_rfl
  · exact first.trans second
  · exact SharedResolver.exec_sequence effect

/-- A renewed record is newer than the one of the attempt before. -/
theorem Renewed.newer {thread k : ℕ} {first record : PipeRecord}
    (reachable : (recoverySystem prim spec).Reachable start pool)
    (renewed : Renewed (exchangesOf thread (pool.history.take k)) first record) :
    first.sequence < record.sequence := by
  obtain ⟨before, candidate, between, split, member⟩ := renewed
  obtain ⟨earlier, replaced, later, isTake, -, isReplace, isBefore, isAfter⟩ :=
    exchangesOf_split split
  rw [← isBefore] at member
  obtain ⟨firstRead, readEarlier, -, isFirst⟩ := mem_exchangesOf.mp member
  have lastMember : (⟨.current, record⟩ : RecoveryExchange) ∈ exchangesOf thread later := by
    grind
  obtain ⟨lastRead, readLater, -, isLast⟩ := mem_exchangesOf.mp lastMember
  have inHistory : ∀ event, event ∈ earlier ++ replaced :: later → event ∈ pool.history := by
    grind
  have ordered := recovery_ordered reachable
  have pairwise := ordered.pairwise.sublist (List.take_sublist k _)
  rw [isTake] at pairwise
  obtain ⟨-, fromReplaced, upToReplaced⟩ := List.pairwise_append.mp pairwise
  have firstMember := inHistory firstRead (List.mem_append_left _ readEarlier)
  have replacedMember := inHistory replaced (List.mem_append_right _ List.mem_cons_self)
  have lastInHistory := inHistory lastRead
    (List.mem_append_right _ (List.mem_cons_of_mem _ readLater))
  obtain ⟨firstIs, -⟩ := reachable.exec_of_mem firstMember isFirst
  have moved := SharedResolver.exec_replace (reachable.exec_of_mem replacedMember isReplace)
  obtain ⟨lastIs, -⟩ := reachable.exec_of_mem lastInHistory isLast
  calc first.sequence = firstRead.before.record.sequence := congrArg PipeRecord.sequence firstIs
    _ ≤ firstRead.after.record.sequence := ordered.within firstRead firstMember
    _ ≤ replaced.before.record.sequence :=
        upToReplaced firstRead readEarlier replaced List.mem_cons_self
    _ < replaced.after.record.sequence := moved
    _ ≤ lastRead.before.record.sequence :=
        (List.pairwise_cons.mp fromReplaced).1 lastRead readLater
    _ = record.sequence := (congrArg PipeRecord.sequence lastIs).symm

/-- At most one attempt precedes another. -/
theorem AttemptAllowed.length_le {own : List RecoveryExchange} {record : PipeRecord}
    (allowed : AttemptAllowed own record) : (attempts own).length ≤ 1 := by
  grind [AttemptAllowed.bounded]

/-- A thread makes at most two attempts. -/
theorem attempts_length_le (reachable : (recoverySystem prim spec).Reachable start pool)
    (thread : ℕ) : (attempts (exchangesOf thread pool.history)).length ≤ 2 := by
  induction reachable with
  | refl => exact Nat.zero_le 2
  | tail earlier step ih =>
    rename_i pool _
    have follows := System.Reachable.follows earlier (RecoveryJob.code_asks prim spec)
    cases step with
    | spawn _ | finish _ =>
      simpa [exchangesOf, Event.exchange?] using ih
    | @move mover command next response state ready effect =>
      by_cases same : mover = thread
      · subst same
        have grown : exchangesOf mover (pool.toWorld.record mover
            (.ran command response) state).history =
            exchangesOf mover pool.history ++ [⟨command, response⟩] := by
          simp [exchangesOf, Event.exchange?]
        rw [grown, attempts_append, List.length_append]
        obtain ⟨job, -, always⟩ := follows.threads _ _ ready
        cases command with
        | attempt record =>
          exact Nat.add_le_add (AttemptAllowed.length_le always.1) le_rfl
        | _ => exact ih
      · simpa [exchangesOf, Event.exchange?, same] using ih

/-- **Endpoint recovery is monotone and bounded.**  In every interleaving of connections and
periodic refreshes, with arbitrary fetches: the record keeps its Pipe and Scope and its
sequence number never decreases; a connection makes at most two attempts; an attempt never
follows an OK result, and a second one follows a transient failure and has a record with a
greater sequence number. -/
theorem recovery_monotone_bounded (reachable : (recoverySystem prim spec).Reachable start pool) :
    (start.Advances pool.state ∧ ∀ event ∈ pool.history, event.before.Advances event.after) ∧
    (∀ thread, (attempts (exchangesOf thread pool.history)).length ≤ 2) ∧
    ∀ k event record, pool.history[k]? = some event → event.action = .ran (.attempt record) () →
      let own := exchangesOf event.thread (pool.history.take k)
      ¬OpenedOK own ∧ (attempts own = [] ∨ ∃ first, attempts own = [first] ∧
        FailedTransiently own ∧ first.sequence < record.sequence) := by
  have ordered := recovery_ordered reachable
  obtain ⟨current, past⟩ := recovery_names reachable
  refine ⟨⟨⟨current.1, current.2, ordered.current⟩, fun event member => ?_⟩,
    attempts_length_le reachable, ?_⟩
  · obtain ⟨before, after⟩ := past event member
    exact ⟨after.1.trans before.1.symm, after.2.trans before.2.symm, ordered.within event member⟩
  · intro k event record found isAttempt own
    obtain ⟨job, -, allowed⟩ :=
      reachable.permitted (RecoveryJob.code_asks prim spec) found isAttempt
    refine ⟨allowed.unopened, allowed.bounded.imp id ?_⟩
    rintro ⟨first, isFirst, failed, renewed⟩
    exact ⟨first, isFirst, failed, renewed.newer reachable⟩

end Interleavings

namespace Sample

/-- Whether a step has to wait. -/
def blocked : RecoveryCommand → SharedResolver → Bool
  | .lockRefresh, s => s.refreshLocked
  | _, _ => false

/-- What does not have to wait happens as it does alone. -/
theorem alone_exec (clock : Time) (fetched : Except GoError (List PipeRecord))
    (answers : (c : OpenerCommand) → c.Response) {c : RecoveryCommand} {s : SharedResolver}
    (free : blocked c s = false) :
    SharedResolver.exec c s (SharedResolver.alone clock fetched answers c s).1
      (SharedResolver.alone clock fetched answers c s).2 := by
  cases c with
  | lockRefresh => exact ⟨free, rfl⟩
  | lastRecovery | current => exact ⟨rfl, rfl⟩
  | replace candidate =>
    simp only [SharedResolver.exec, SharedResolver.alone]
    split <;> exact ⟨rfl, rfl⟩
  | _ => rfl

/-- A lease is there, and no peer answers. -/
def unreachable : (c : OpenerCommand) → c.Response
  | .currentLease => some ([], [])
  | .now => .zero
  | .startRefresh .. => ()
  | .pipe _ | .service _ | .validateService _ | .dialService _ | .record _
  | .membership _ | .requestLeasePair .. | .setLeases .. | .putConnectLease ..
  | .dialPeer _ | .newStream _ | .readPrivate _ | .writeHello _ | .readServerHello
  | .writeOpen _ | .readResult => .error (errorsNew "unreachable")

/-- The first dial fails, and a fetch finds the second record. -/
def endpointMoves (c : RecoveryCommand) (s : SharedResolver) :
    Option (c.Response × SharedResolver) :=
  if blocked c s then none
  else some (SharedResolver.alone ⟨90 * second, 0⟩ (.ok [pipeRecord 2]) unreachable c s)

/-- A resolver with the first record. -/
def firstEndpoint : SharedResolver := ⟨⟨pipeRecord 1, .zero⟩, false⟩

/-- A connection whose first dial fails: three steps of the opener, seven of the refresh and
the lock, and the second attempt. -/
theorem perform_retry (holds : Pool RecoveryJob RecoveryCommand RecoveryCommand.Response Unit
      SharedResolver → Prop) [DecidablePred holds]
    (computed : (perform (recoverySystem unchecked forwardingSpec)
      (fun _ => endpointMoves) (fun _ _ => true)
      (.spawn .connection :: List.replicate 15 (.move 0 ()))
      (Pool.start firstEndpoint)).any (fun pool => holds pool) = true) :
    ∃ pool, (recoverySystem unchecked forwardingSpec).Reachable firstEndpoint pool ∧
      holds pool := by
  obtain ⟨pool, performed, facts⟩ := (Option.any_eq_true _ _).mp computed
  refine ⟨pool, perform_reachable ?_ (fun _ _ _ => trivial)
    (System.Reachable.start _) performed, of_decide_eq_true facts⟩
  intro input c s response after attempted
  unfold endpointMoves at attempted
  split at attempted
  · cases attempted
  · rename_i free
    have same := Option.some.inj attempted
    have effect := alone_exec ⟨90 * second, 0⟩ (.ok [pipeRecord 2]) unreachable
      (Bool.not_eq_true _ ▸ free)
    rw [same] at effect
    exact effect

end Sample

/-- A connection that retries with the second record. -/
theorem recovery_monotone_bounded_retry :
    ∃ pool, (recoverySystem Sample.unchecked Sample.forwardingSpec).Reachable
        Sample.firstEndpoint pool ∧
      (attempts (exchangesOf 0 pool.history)).map PipeRecord.sequence = [1, 2] ∧
      Sample.firstEndpoint.Advances pool.state := by
  obtain ⟨pool, reachable, twice⟩ := Sample.perform_retry
    (fun pool => (attempts (exchangesOf 0 pool.history)).map PipeRecord.sequence = [1, 2])
    (by decide +kernel)
  exact ⟨pool, reachable, twice, (recovery_monotone_bounded reachable).1.1⟩

end Tubo
