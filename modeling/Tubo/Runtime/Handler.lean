import Tubo.Runtime.Roles

/-!
# What a stream handler holds

The handler of an incoming stream, and the end of a client connection, obey the
protocol of goroutines.  When `handle` returns it has closed or reset the stream
itself, or `serve` has told it that the stream was transferred; in that case the
session refused the stream, or it accepted it and the handler has either seen the
session stop or been denied work.
-/

namespace Tubo

open Concurrency

/-! ## What `serve` does aside -/

/-- A command of `serve` that does not concern its session or its timers. -/
def ServeCommand.aside : ServeCommand → Bool
  | .armTimer _ | .stopTimer | .transferTimer _ | .newSession _
  | .setActiveCarrier | .runServerSession => false
  | _ => true

/-- A part of `serve` that does not concern its session or its timers. -/
def Aside {α : Type} (program : Program ServeCommand ServeCommand.Response α)
    (history : List ServeExchange) : Prop :=
  program.Always (fun _ command => command.aside = true) (fun _ _ => True)
    history

theorem serveAccess_aside (runtime : RuntimeRef) (carrier : CarrierRef)
    (locals : ServeLocals) {command : ServeCommand} (aside : command.aside = true) :
    serveAccess runtime carrier locals command =
      .call (.serve command) fun response => .done (response, locals) := by
  cases command <;> first | rfl | cases aside

variable {α : Type} {carrier : CarrierRef} {program : Program ServeCommand ServeCommand.Response α}
  {history : List ServeExchange} {q : Local} {ref : SessionRef}

/-- Such a part changes nothing for a protocol that ignores it. -/
theorem Aside.obeys {P : Protocol RuntimeCommand RuntimeCommand.Response} {runtime : RuntimeRef}
    (aside : Aside program history) (permits : ∀ q command, P.permits q (.serve command))
    (ignores : ∀ q command response, P.next q (.serve command) response = q)
    {post : P.State → α × ServeLocals → Prop} {q : P.State}
    {locals : ServeLocals} (returns : ∀ value, post q (value, locals)) :
    (program.elaborate (serveAccess runtime carrier) locals).Obeys P post q := by
  induction program generalizing history with
  | done value => exact returns value
  | call command next ih =>
    rw [Program.elaborate, serveAccess_aside _ _ _ aside.1]
    refine ⟨permits q command, fun response _ => ?_⟩
    rw [ignores q command response]
    exact ih response (aside.2 response)

theorem Aside.bind {β : Type} {after : α → Program ServeCommand ServeCommand.Response β}
    (aside : Aside program history)
    (next : ∀ value later, Aside (after value) later) : Aside (program.bind after) history :=
  Program.Always.bind (aside.mono fun later value _ => next value later)

theorem aside_relabel {C : Type} {R : C → Type}
    {into : C → ServeCommand} {back : (c : C) → (into c).Response → R c}
    (program : Program C R α) (history : List ServeExchange)
    (isAside : ∀ c, (into c).aside = true) : Aside (program.relabel into back) history := by
  induction program generalizing history with
  | done value => trivial
  | call command next ih =>
    exact ⟨isAside command, fun response => ih _ _⟩

variable (prim : Primitives) (server : TunnelServer)

theorem authorizeOpenOnly_aside (clientPublic challenge : GoString)
    (request : OpenPipe) (now : Time) (history : List ServeExchange) :
    Aside (authorizeOpenOnly prim server clientPublic challenge request now)
      history := by
  unfold authorizeOpenOnly
  split
  · trivial
  · refine Aside.bind (Aside.bind ?_ ?_) ?_
    · refine ⟨rfl, ?_⟩
      rintro (_ | cached)
      · dsimp only
        split
        · trivial
        · refine ⟨rfl, ?_⟩
          rintro (error | secret) <;> trivial
      · trivial
    · rintro (_ | loaded) later
      · trivial
      · exact aside_relabel _ _ fun _ => rfl
    · rintro (error | auth) later
      · trivial
      · dsimp only
        split <;> trivial

theorem resolveTarget_aside (request : OpenPipe) (history : List ServeExchange) :
    Aside (resolveTarget server request) history := by
  unfold resolveTarget
  split
  · split
    · trivial
    · split
      · split <;> trivial
      · refine Aside.bind (aside_relabel _ _ fun _ => rfl) ?_
        rintro (error | result) later <;> trivial
  · refine ⟨rfl, ?_⟩
    rintro (error | _) <;> trivial

/-! ## The handler -/

/-- The stream was offered to a session: it was refused, or it was accepted and
the handler has seen the session stop or was denied work. -/
def Local.Transferred (q : Local) (carrier : CarrierRef) : Prop :=
  (∃ ref, (q.role ref).owner = .refused) ∨ ∃ ref, (q.role ref).owner.carrier? = some carrier ∧
      ((q.role ref).stopped = true ∨ (q.role ref).denied = true)

theorem Local.Transferred.of_role {role : Role} (hasCarrier : role.owner.carrier? = some carrier)
    (concluded : role.stopped = true ∨ role.denied = true) :
    (q.withRole ref role).Transferred carrier := by
  refine .inr ⟨ref, ?_⟩
  rw [Local.withRole_role_self]
  exact ⟨hasCarrier, concluded⟩

/-- The owner of a session after the session has accepted its carrier. -/
theorem Local.next_installed (carrier : CarrierRef) (created : q.role ref = { owner := .created }) :
    (q.next (.session ref (.setActiveCarrier carrier)) true).role ref =
      { owner := .installed carrier } := by
  rw [Local.next, Local.withRole_role_self, created]
  rfl

/-- If the result of `serve` says that the stream was transferred, then it
was. -/
def ServeOwes (carrier : CarrierRef) (q : Local)
    (result : Except GoError Unit × ServeLocals) : Prop :=
  ∀ error, result.1 = .error error →
    error.is errInitialCarrierTransferred = true → q.Transferred carrier

section Serve

variable {runtime : RuntimeRef} {carrier : CarrierRef}

variable {q : Local} {locals : ServeLocals}

/-- Another error owes nothing. -/
theorem serveOwes_error {error : GoError} (other : ¬error.is errInitialCarrierTransferred) :
    ServeOwes carrier q (.error error, locals) := by
  intro same isError transferred
  grind

theorem openError_obeys (code message : String) :
    ((openError code message : ServeProgram Unit).elaborate
      (serveAccess runtime carrier) locals).Obeys roles (ServeOwes carrier) q := by
  refine ⟨trivial, fun _ _ => serveOwes_error ?_⟩
  simp [GoError.is, errInitialCarrierTransferred]

/-- What `serve` deferred changes nothing that the handler holds. -/
theorem deferred_obeys {owned : Bool}
    {result : Except GoError Unit} (owes : ServeOwes carrier q (result, locals)) :
    ((deferred owned result).elaborate (serveAccess runtime carrier)
      locals).Obeys roles (ServeOwes carrier) q := by
  rcases locals with ⟨session, _ | timer⟩
  · cases owned
    · exact ⟨trivial, fun _ _ => owes⟩
    · exact owes
  · refine ⟨trivial, fun _ _ => ?_⟩
    cases owned
    · exact ⟨trivial, fun _ _ => owes⟩
    · exact owes

variable {sessionID : GoString} {ref : SessionRef} {timer : Option TimerRef} {auth : Authorization}

/-- The end of `serve`: the session runs. -/
theorem running_obeys (owned : q.role ref = { owner := .installed carrier }) :
    ((Program.call .runServerSession fun _ =>
        .call (.recordSession sessionID) fun _ =>
          deferred true (.error errInitialCarrierTransferred) :
        ServeProgram Unit).elaborate (serveAccess runtime carrier)
      ⟨some ref, timer⟩).Obeys roles (ServeOwes carrier) q := by
  refine Program.Obeys.bind (Program.Obeys.bind ((runServerSession_obeys carrier ?_ ?_ ?_).mono ?_))
  · exact congrArg Role.closing owned
  · exact congrArg Role.working owned
  · exact congrArg Role.owner owned
  · rintro _ - ⟨role, rfl, hasCarrier, concluded⟩
    refine ⟨trivial, fun _ _ => deferred_obeys ?_⟩
    exact fun _ _ _ => Local.Transferred.of_role hasCarrier concluded

/-- The session takes over: the handler owns the session it created. -/
theorem activate_obeys (created : q.role ref = { owner := .created }) :
    ((serveSession.activate auth sessionID).elaborate
      (serveAccess runtime carrier) ⟨some ref, timer⟩).Obeys roles (ServeOwes carrier) q := by
  refine ⟨congrArg Role.owner created, ?_⟩
  rintro installed -
  cases installed with
  | false =>
    refine deferred_obeys ?_
    intro error _ _
    refine .inl ⟨ref, ?_⟩
    exact congrArg Role.owner (Local.withRole_role_self _ _ _)
  | true =>
    have owned := Local.next_installed carrier created
    rcases timer with _ | timer
    · exact ⟨trivial, fun _ _ => running_obeys owned⟩
    · exact ⟨trivial, fun _ _ => ⟨trivial, fun _ _ => running_obeys owned⟩⟩

theorem serveSession_obeys :
    ((serveSession server auth).elaborate (serveAccess runtime carrier)
      {}).Obeys roles (ServeOwes carrier) {} := by
  have revoked {q : Local} {locals : ServeLocals} :
      (((openError "authorization_denied" "session revoked").bind
        (deferred false)).elaborate (serveAccess runtime carrier) locals).Obeys
          roles (ServeOwes carrier) q := by
    refine ⟨trivial, fun _ _ => deferred_obeys (serveOwes_error ?_)⟩
    simp [GoError.is, errInitialCarrierTransferred]
  refine ⟨trivial, fun timer _ => ⟨trivial, ?_⟩⟩
  rintro (error | random) expected
  · exact deferred_obeys (serveOwes_error expected)
  refine ⟨trivial, ?_⟩
  rintro (error | _ | _) -
  · exact revoked
  · refine ⟨trivial, ?_⟩
    rintro (error | _) expected
    · exact deferred_obeys (serveOwes_error expected)
    refine ⟨trivial, fun _ _ => ⟨trivial, ?_⟩⟩
    rintro (error | ref) expected
    · exact deferred_obeys (serveOwes_error expected)
    · exact activate_obeys (Local.withRole_role_self _ _ _)
  · exact revoked

/-- The handshake changes nothing that the handler holds, and its errors are
those of the stream. -/
theorem handshake_obeys :
    ((handshake server).elaborate (serveAccess runtime carrier) {}).Obeys roles
      (fun q' result => q' = {} ∧ result.2 = {} ∧ ∀ error,
        result.1 = .error error → ¬error.is errInitialCarrierTransferred)
      {} := by
  have failed {error : GoError} (foreign : ¬error.is errInitialCarrierTransferred) :
      ∀ other, (Except.error error :
        Except GoError (ClientHello × GoString × OpenPipe)) = .error other →
        ¬other.is errInitialCarrierTransferred := by
    grind
  refine ⟨trivial, ?_⟩
  rintro (error | hello) expected
  · exact ⟨rfl, rfl, failed expected⟩
  change (Program.elaborate _ (ite _ _ _) _).Obeys _ _ _
  split
  · exact ⟨rfl, rfl, failed (by
      simp [GoError.is, errorsNew, errInitialCarrierTransferred])⟩
  refine ⟨trivial, fun nonce _ => ⟨trivial, ?_⟩⟩
  rintro (error | _) expected
  · exact ⟨rfl, rfl, failed expected⟩
  refine ⟨trivial, ?_⟩
  rintro (error | request) expected
  · exact ⟨rfl, rfl, failed expected⟩
  · exact ⟨rfl, rfl, nofun⟩

theorem serve_obeys : ((serve prim server).elaborate (serveAccess runtime carrier) {}).Obeys
      roles (ServeOwes carrier) {} := by
  change (Program.elaborate _ (Program.bind _ _) _).Obeys _ _ _
  rw [Program.elaborate_bind]
  refine Program.Obeys.bind ((handshake_obeys server).mono ?_)
  rintro _ ⟨error | ⟨hello, challenge, request⟩, _⟩ ⟨rfl, rfl, foreign⟩
  · exact serveOwes_error (foreign error rfl)
  dsimp only
  split
  · exact openError_obeys _ _
  refine ⟨trivial, fun clock _ => ?_⟩
  change (Program.elaborate _ (Program.bind _ _) _).Obeys _ _ _
  rw [Program.elaborate_bind]
  refine Program.Obeys.bind ((authorizeOpenOnly_aside prim server _ _ _ _
    []).obeys (fun _ _ => trivial) (fun _ _ _ => rfl) ?_)
  rintro (error | auth)
  · exact openError_obeys _ _
  change (Program.elaborate _ (Program.bind _ _) _).Obeys _ _ _
  rw [Program.elaborate_bind]
  refine Program.Obeys.bind ((resolveTarget_aside server _ []).obeys
    (fun _ _ => trivial) (fun _ _ _ => rfl) ?_)
  rintro (⟨code, message⟩ | _)
  · exact openError_obeys _ _
  · exact serveSession_obeys server

/-- When `handle` returns, it has closed or reset the stream, or the stream was
transferred. -/
theorem handle_obeys : (handle prim server runtime carrier).Obeys roles (fun q' _ =>
      carrier ∈ q'.streamed ∨ q'.Transferred carrier) {} := by
  refine Program.Obeys.bind ((serve_obeys prim server).mono ?_)
  rintro q' ⟨error | _, locals⟩ owes
  · dsimp only
    split
    · rename_i transferred
      exact .inr (owes error rfl transferred)
    · exact ⟨trivial, fun _ _ => .inl (List.mem_cons_self ..)⟩
  · exact ⟨trivial, fun _ _ => .inl (List.mem_cons_self ..)⟩

end Serve

theorem connectSession_obeys (runtime : RuntimeRef) (sessionID : GoString)
    (target : Bool) (carrier : CarrierRef) :
    (connectSession runtime sessionID target carrier).Obeys roles (fun _ _ => True) {} := by
  refine ⟨trivial, ?_⟩
  rintro (error | ref) -
  · exact ⟨trivial, fun _ _ => trivial⟩
  have created : (Local.next {} (.newSession runtime sessionID target)
      (.ok ref)).role ref = { owner := .created } :=
    Local.withRole_role_self _ _ _
  refine ⟨congrArg Role.owner created, ?_⟩
  rintro installed -
  cases installed with
  | false => exact ⟨trivial, fun _ _ => trivial⟩
  | true =>
    have owned := Local.next_installed carrier created
    refine (runServerSession_obeys carrier ?_ ?_ ?_).mono fun _ _ _ => trivial
    · exact congrArg Role.closing owned
    · exact congrArg Role.working owned
    · exact congrArg Role.owner owned

/-! ## All jobs -/

/-- What a job owes when it returns. -/
def RuntimeJob.Owes : RuntimeJob → Local → Unit → Prop
  | .closePipe runtime, q, _ => (q.pipe runtime).closed = true
  | .closeNode, q, _ => q.node.closed = true
  | .watchNode, q, _ => q.node.closed = true
  | .handle _ _ carrier, q, _ =>
    carrier ∈ q.streamed ∨ q.Transferred carrier
  | _, _, _ => True

/-- Every goroutine obeys the protocol. -/
theorem RuntimeJob.obeys (job : RuntimeJob) : (job.code prim).Obeys roles job.Owes {} := by
  cases job with
  | newPipeRuntime => exact ⟨trivial, fun _ _ => trivial⟩
  | closePipe runtime =>
    exact (closePipeRuntime_obeys fun _ => rfl).mono fun _ _ closed => closed.2
  | closeNode => exact closeNodeRuntime_obeys fun _ => rfl
  | watchNode =>
    exact ⟨trivial, fun _ _ => closeNodeRuntime_obeys fun _ => rfl⟩
  | cancelParent => exact ⟨trivial, fun _ _ => trivial⟩
  | connect runtime sessionID target carrier =>
    exact connectSession_obeys runtime sessionID target carrier
  | handle server runtime carrier => exact handle_obeys prim server
  | work ref => exact sessionWork_obeys rfl
  | stop ref => exact (stop_obeys rfl).mono fun _ _ _ => trivial
  | requestStop ref => exact (requestStop_obeys rfl).mono fun _ _ _ => trivial
  | requestedStop ref => exact requestedStop_obeys rfl
  | pump ref direction => exact pumpDirection_obeys rfl rfl
  | timer ref => exact runTimer_obeys ref fun _ => rfl
  | tick now => exact ⟨trivial, fun _ _ => trivial⟩

theorem ownership_errors : ¬errRuntimeClosed.is errInitialCarrierTransferred ∧
      ¬errInvalidSessionID.is errInitialCarrierTransferred ∧
      ¬errDuplicateSessionID.is errInitialCarrierTransferred := by
  decide

/-- The answers of the tree are those the protocol expects. -/
theorem Tree.Exec.expected {c : RuntimeCommand} {tree after : Tree}
    {response : c.Response} (exec : Tree.Exec c tree response after) : c.Expected response := by
  cases c with
  | serve command => exact exec.2
  | newSession ref sessionID target =>
    obtain ⟨choice, executed⟩ := exec
    simp only [Tree.execute, Tree.newSession, Option.map_eq_some_iff] at executed
    obtain ⟨runtime, -, executed⟩ := executed
    split at executed
    · cases executed
      exact ownership_errors.1
    split at executed
    · cases executed
      exact ownership_errors.2.1
    split at executed
    · cases executed
      exact ownership_errors.1
    split at executed
    · cases executed
      exact ownership_errors.2.2
    · cases executed
      trivial
  | _ => trivial

end Tubo
