import Tubo.Runtime.Streams

/-!
# A session does not outlive its authorization

Package `internal/runtime`: the two timers of `tunnelServer.serve`.  The first one
closes the target of a stream that has no session; when the session has accepted
the stream, `transferSessionAuthorizationTimer` stops it and arms the second one,
whose function is `Stop` of the session.

What a goroutine knows of timers is a protocol of its own, `watching`: it stops
only timers it has armed, and the timer of a session only when it has seen that
the session is stopping or cannot do more work; a callback is over only when it
has asked the session to stop; and a handler asks for work only under a timer, and
ends its stream only when its session is over.
-/

namespace Tubo

open Concurrency

/-! ## What a goroutine knows of timers -/

/-- `serves` says that it is a handler; `expiry` is the deadline of its timers;
`armed` and `fired` are the timers it has armed or whose function it runs, with
the session that the function stops; `created` are the sessions it has created,
`guarded` those for which it has armed a timer, and `concluded` those that it knows to
be stopping or cancelled. -/
structure Watch where
  serves : Bool := false
  expiry : Option Time := none
  armed : TimerRef → Option (Option SessionRef) := fun _ => none
  fired : TimerRef → Option (Option SessionRef) := fun _ => none
  created : SessionRef → Bool := fun _ => false
  guarded : SessionRef → Bool := fun _ => false
  concluded : SessionRef → Bool := fun _ => false

namespace Watch

/-- The session that a timer stops, if there is one, is over. -/
def Settles (q : Watch) (session : Option SessionRef) : Prop :=
  ∀ ref, session = some ref → q.concluded ref = true

/-- All sessions that the goroutine has created are over. -/
def Closed (q : Watch) : Prop :=
  ∀ ref, q.created ref = true → q.concluded ref = true

/-- The accesses a goroutine may make. -/
def permits (q : Watch) : RuntimeCommand → Prop
  | .armTimer deadline _ => q.expiry = none ∨ q.expiry = some deadline
  | .stopTimer timer => ∃ session, q.armed timer = some session ∧
      q.Settles session
  | .callbackRan timer => ∃ session, q.fired timer = some session ∧
      q.Settles session
  | .session ref .admitWork => q.serves = true → q.guarded ref = true
  | .stream .. => q.serves = true → q.Closed
  | _ => True

/-- A session is known to be over. -/
def ended (q : Watch) (ref : SessionRef) : Watch :=
  { q with concluded := Function.update q.concluded ref true }

/-- What it knows afterwards. -/
def next (q : Watch) : (c : RuntimeCommand) → c.Response → Watch
  | .armTimer deadline none, timer =>
    { q with
      expiry := some deadline,
      armed := Function.update q.armed timer (some none) }
  | .armTimer deadline (some ref), timer =>
    { q with
      expiry := some deadline,
      armed := Function.update q.armed timer (some (some ref)),
      guarded := Function.update q.guarded ref true }
  | .fire timer, session =>
    { q with fired := Function.update q.fired timer (some session) }
  | .newSession .., .ok ref =>
    { q with created := Function.update q.created ref true }
  | .session ref .beginStop, _ => q.ended ref
  | .session ref .admitWork, false => q.ended ref
  | .session ref (.setActiveCarrier _), false => q.ended ref
  | _, _ => q

/-- Nothing changes but that more sessions are known to be over. -/
structure Keeps (q later : Watch) : Prop where
  serves : later.serves = q.serves
  expiry : later.expiry = q.expiry
  armed : later.armed = q.armed
  fired : later.fired = q.fired
  created : later.created = q.created
  guarded : later.guarded = q.guarded
  concluded : ∀ ref, q.concluded ref = true → later.concluded ref = true

theorem Keeps.refl (q : Watch) : q.Keeps q :=
  ⟨rfl, rfl, rfl, rfl, rfl, rfl, fun _ => id⟩

theorem Keeps.trans {q later last : Watch} (first : q.Keeps later)
    (second : later.Keeps last) : q.Keeps last :=
  ⟨second.serves.trans first.serves, second.expiry.trans first.expiry,
    second.armed.trans first.armed, second.fired.trans first.fired,
    second.created.trans first.created, second.guarded.trans first.guarded,
    fun ref known => second.concluded ref (first.concluded ref known)⟩

@[simp]
theorem ended_concluded_self (q : Watch) (ref : SessionRef) : (q.ended ref).concluded ref = true :=
  Function.update_self _ _ _

theorem keeps_ended (q : Watch) (ref : SessionRef) : q.Keeps (q.ended ref) := by
  refine ⟨rfl, rfl, rfl, rfl, rfl, rfl, fun other known => ?_⟩
  by_cases same : other = ref
  · rw [same, ended_concluded_self]
  · change Function.update q.concluded ref true other = true
    rw [Function.update_of_ne same]
    exact known

/-- An access to a session tells only that it is over. -/
theorem keeps_session (q : Watch) (ref : SessionRef) (command : SessionCommand)
    (response : command.Response) : q.Keeps (q.next (.session ref command) response) := by
  cases command with
  | beginStop => exact q.keeps_ended ref
  | admitWork | setActiveCarrier =>
    cases response
    · exact q.keeps_ended ref
    · exact .refl q
  | _ => exact .refl q

end Watch

/-- The protocol of timers. -/
def watching : Protocol RuntimeCommand RuntimeCommand.Response where
  State := Watch
  permits := Watch.permits
  expects := RuntimeCommand.Expected
  next := Watch.next

/-! ## Programs that obey it -/

/-- The commands that have nothing to do with timers. -/
def RuntimeCommand.untimed : RuntimeCommand → Prop
  | .armTimer .. | .stopTimer _ | .fire _ | .callbackRan _ | .newSession ..
  | .session _ .admitWork | .stream .. => False
  | _ => True

section Untimed

variable {c : RuntimeCommand} {response : c.Response} {q : Watch}

theorem Watch.permits_untimed (untimed : c.untimed) : q.permits c := by
  cases c with
  | session ref command =>
    cases command with
    | admitWork => exact untimed.elim
    | _ => trivial
  | armTimer | stopTimer | fire | callbackRan | newSession | stream =>
    exact untimed.elim
  | _ => trivial

theorem Watch.keeps_untimed (untimed : c.untimed) : q.Keeps (q.next c response) := by
  cases c with
  | session ref command => exact q.keeps_session ref command response
  | armTimer | stopTimer | fire | callbackRan | newSession | stream =>
    exact untimed.elim
  | _ => exact .refl q

/-- A program without timers knows at most more of sessions that are over. -/
theorem untimed_obeys {α : Type} {program : RuntimeProgram α} {q : Watch}
    (only : program.Only RuntimeCommand.untimed) :
    program.Obeys watching (fun q' _ => q.Keeps q') q := by
  suffices general : ∀ q', q.Keeps q' → program.Obeys watching (fun q' _ => q.Keeps q') q' from
    general q (.refl q)
  induction program with
  | done value => exact fun q' kept => kept
  | call command next ih =>
    intro q' kept
    exact ⟨Watch.permits_untimed only.1, fun response _ =>
      ih response (only.2 response) _ (kept.trans (Watch.keeps_untimed only.1))⟩

end Untimed

section Only

variable (ref : SessionRef)

theorem completeStop_untimed (resources : StopResources) :
    (completeStop ref resources).Only RuntimeCommand.untimed := by
  refine ⟨trivial, fun _ => Program.Only.bind ?_ fun _ => Program.Only.bind ?_
    fun _ => ⟨trivial, fun _ => ⟨trivial, fun _ => ⟨trivial, fun _ =>
      trivial⟩⟩⟩⟩
  · unfold terminateCarrier
    split
    · trivial
    · exact ⟨trivial, fun _ => ⟨trivial, fun _ => trivial⟩⟩
  · unfold terminateTarget
    split
    · exact ⟨trivial, fun _ => trivial⟩
    · trivial

theorem stop_untimed : (stop ref).Only RuntimeCommand.untimed := by
  refine ⟨trivial, ?_⟩
  rintro (_ | resources)
  · exact ⟨trivial, fun _ => trivial⟩
  · exact completeStop_untimed ref resources

theorem requestStop_untimed : (requestStop ref).Only RuntimeCommand.untimed := by
  refine ⟨trivial, ?_⟩
  rintro (_ | resources)
  · trivial
  · exact ⟨trivial, fun _ => trivial⟩

theorem pumpCarrier_untimed : (pumpCarrier ref).Only RuntimeCommand.untimed := by
  refine ⟨trivial, ?_⟩
  rintro (_ | current)
  · exact requestStop_untimed ref
  · exact ⟨trivial, fun _ => ⟨trivial, fun _ => ⟨trivial, fun _ => trivial⟩⟩⟩

theorem pumpDirection_untimed (direction : Direction) :
    (pumpDirection ref direction).Only RuntimeCommand.untimed := by
  refine ⟨trivial, fun _ => Program.Only.bind ⟨trivial, ?_⟩ fun _ =>
    ⟨trivial, fun _ => trivial⟩⟩
  rintro (_ | _)
  · exact Program.Only.bind (requestStop_untimed ref) fun _ => trivial
  · trivial

theorem stopAll_untimed (sessions : List SessionRef) :
    (stopAll sessions).Only RuntimeCommand.untimed := by
  induction sessions with
  | nil => trivial
  | cons ref rest ih =>
    exact Program.Only.bind (stop_untimed ref) fun _ => ih

theorem closePipeRuntime_untimed (p : RuntimeRef) :
    (closePipeRuntime p).Only RuntimeCommand.untimed := by
  refine ⟨trivial, ?_⟩
  rintro (_ | _)
  · exact ⟨trivial, fun _ => trivial⟩
  · exact ⟨trivial, fun sessions => Program.Only.bind (stopAll_untimed sessions)
      fun _ => ⟨trivial, fun _ => ⟨trivial, fun _ => trivial⟩⟩⟩

theorem closeAll_untimed (runtimes : List RuntimeRef) :
    (closeAll runtimes).Only RuntimeCommand.untimed := by
  induction runtimes with
  | nil => trivial
  | cons p rest ih =>
    exact Program.Only.bind (closePipeRuntime_untimed p) fun _ => ih

theorem closeNodeRuntime_untimed : closeNodeRuntime.Only RuntimeCommand.untimed := by
  refine ⟨trivial, ?_⟩
  rintro (_ | pipes)
  · exact ⟨trivial, fun _ => trivial⟩
  · exact Program.Only.bind (closeAll_untimed pipes) fun _ => ⟨trivial, fun _ => trivial⟩

end Only

section Obeys

variable {q : Watch} {ref : SessionRef}

/-- Who has asked a session to stop knows that it is over. -/
theorem stop_watches : (stop ref).Obeys watching (fun q' _ => q.Keeps q' ∧ q'.concluded ref = true)
      q := by
  have later (q' : Watch) (kept : (q.ended ref).Keeps q') : q.Keeps q' ∧ q'.concluded ref = true :=
    ⟨(q.keeps_ended ref).trans kept, kept.concluded ref (q.ended_concluded_self ref)⟩
  refine ⟨trivial, ?_⟩
  rintro (_ | resources) -
  · exact ⟨trivial, fun _ _ => later _ (.refl _)⟩
  · exact (untimed_obeys (completeStop_untimed ref resources)).mono fun q' _ kept => later q' kept

/-- When `runServerSession` returns, the session is over. -/
theorem runServerSession_watches (guarded : q.serves = true → q.guarded ref = true) :
    (runServerSession ref).Obeys watching (fun q' _ => q.Keeps q' ∧ q'.concluded ref = true) q := by
  refine ⟨guarded, ?_⟩
  rintro (_ | _) -
  · exact ⟨q.keeps_ended ref, q.ended_concluded_self ref⟩
  · refine Program.Obeys.bind ((untimed_obeys (pumpCarrier_untimed ref)).mono ?_)
    intro middle _ kept
    refine ⟨trivial, fun _ _ => stop_watches.mono ?_⟩
    exact fun q' _ later => ⟨kept.trans later.1, later.2⟩

theorem sessionWork_watches (idle : q.serves = false) :
    (sessionWork ref).Obeys watching (fun _ _ => True) q := by
  refine ⟨fun serves => ?_, ?_⟩
  · rw [idle] at serves
    cases serves
  · rintro (_ | _) -
    · trivial
    · exact ⟨trivial, fun _ _ => trivial⟩

variable {sessionID : GoString} {timer : TimerRef} {auth : Authorization}

theorem connectSession_watches {p : RuntimeRef}
    {target : Bool} {carrier : CarrierRef} (idle : q.serves = false) :
    (connectSession p sessionID target carrier).Obeys watching (fun _ _ => True) q := by
  have notServing {P : Prop} (serves : q.serves = true) : P := by
    rw [idle] at serves
    cases serves
  refine ⟨trivial, ?_⟩
  rintro (error | ref) -
  · exact ⟨notServing, fun _ _ => trivial⟩
  refine ⟨trivial, ?_⟩
  rintro (_ | _) -
  · exact ⟨notServing, fun _ _ => trivial⟩
  · refine (runServerSession_watches ?_).mono fun _ _ _ => trivial
    exact fun serves => notServing serves

/-- The function of a timer asks its session to stop before it is over. -/
theorem runTimer_watches (timer : TimerRef) :
    (runTimer timer).Obeys watching (fun _ _ => True) q := by
  refine ⟨trivial, ?_⟩
  rintro (_ | ref) -
  · refine ⟨⟨none, Function.update_self _ _ _, nofun⟩, fun _ _ => trivial⟩
  · refine Program.Obeys.bind (stop_watches.mono ?_)
    rintro q' - ⟨kept, isOver⟩
    refine ⟨⟨some ref, ?_, ?_⟩, fun _ _ => trivial⟩
    · rw [kept.fired]
      exact Function.update_self _ _ _
    · rintro _ ⟨⟩
      exact isOver

/-! ### The handler -/

/-- The timer of `serve` may be stopped. -/
def Watch.MayStop (q : Watch) (locals : ServeLocals) : Prop :=
  ∀ timer, locals.timer = some timer → ∃ session, q.armed timer = some session ∧ q.Settles session

variable {p : RuntimeRef} {carrier : CarrierRef} {locals : ServeLocals}

theorem stopAuthorizationTimer_watches (mayStop : q.MayStop locals) :
    (stopAuthorizationTimer locals).Obeys watching (fun q' _ => q' = q) q := by
  unfold stopAuthorizationTimer
  split
  · rfl
  · rename_i timer isTimer
    exact ⟨mayStop timer isTimer, fun _ _ => rfl⟩

theorem deferred_watches {owned : Bool} {result : Except GoError Unit}
    (mayStop : q.MayStop locals) (closed : q.Closed) :
    ((deferred owned result).elaborate (serveAccess p carrier) locals).Obeys
      watching (fun q' _ => q'.Closed) q := by
  refine Program.Obeys.bind (Program.Obeys.bind ((stopAuthorizationTimer_watches mayStop).mono ?_))
  rintro _ - rfl
  cases owned
  · exact ⟨trivial, fun _ _ => closed⟩
  · exact closed

/-- An end of `serve` before it has a session. -/
theorem openError_deferred_watches {code message : String}
    (mayStop : q.MayStop locals) (closed : q.Closed) :
    (((openError code message).bind (deferred false)).elaborate
      (serveAccess p carrier) locals).Obeys watching (fun q' _ => q'.Closed)
        q :=
  ⟨trivial, fun _ _ => deferred_watches mayStop closed⟩

/-- The end of `serve`: the session runs under its timer. -/
theorem running_watches
    (guarded : q.serves = true → q.guarded ref = true) (armed : q.armed timer = some (some ref))
    (created : ∀ other, q.created other = true → other = ref) :
    ((Program.call .runServerSession fun _ =>
        .call (.recordSession sessionID) fun _ =>
          deferred true (.error errInitialCarrierTransferred) :
        ServeProgram Unit).elaborate (serveAccess p carrier)
      ⟨some ref, some timer⟩).Obeys watching (fun q' _ => q'.Closed) q := by
  refine Program.Obeys.bind (Program.Obeys.bind ((runServerSession_watches guarded).mono ?_))
  rintro q' - ⟨kept, isOver⟩
  refine ⟨trivial, fun _ _ => deferred_watches ?_ ?_⟩
  · rintro _ ⟨⟩
    refine ⟨some ref, ?_, ?_⟩
    · rw [← armed]
      exact congrFun kept.armed timer
    · rintro _ ⟨⟩
      exact isOver
  · intro other isCreated
    have before : q.created other = true := by
      rw [← isCreated]
      exact congrFun kept.created.symm other
    obtain rfl := created other before
    exact isOver

theorem activate_watches
    (expiry : q.expiry = some auth.expiresAt) (armed : q.armed timer = some none)
    (created : ∀ other, q.created other = true → other = ref) :
    ((serveSession.activate auth sessionID).elaborate (serveAccess p carrier)
      ⟨some ref, some timer⟩).Obeys watching (fun q' _ => q'.Closed) q := by
  refine ⟨trivial, ?_⟩
  rintro (_ | _) -
  · -- The session refuses the stream, so it is over.
    refine deferred_watches ?_ ?_
    · rintro _ ⟨⟩
      exact ⟨none, armed, nofun⟩
    · intro other isCreated
      obtain rfl := created other isCreated
      exact q.ended_concluded_self other
  · exact ⟨⟨none, armed, nofun⟩, fun _ _ => ⟨.inr expiry, fun second _ =>
      running_watches (fun _ => Function.update_self _ _ _) (Function.update_self _ _ _) created⟩⟩

theorem serveSession_watches {server : TunnelServer}
    (fresh : q.expiry = none) (none : ∀ ref, q.created ref = false) :
    ((serveSession server auth).elaborate (serveAccess p carrier) {}).Obeys
      watching (fun q' _ => q'.Closed) q := by
  refine ⟨.inl fresh, fun timer _ => ?_⟩
  have armed : (Watch.next q (.armTimer auth.expiresAt Option.none)
      timer).armed timer = some Option.none := Function.update_self _ _ _
  have mayStop : (Watch.next q (.armTimer auth.expiresAt Option.none)
      timer).MayStop ⟨Option.none, some timer⟩ := by
    rintro _ ⟨⟩
    exact ⟨Option.none, armed, nofun⟩
  have closed : (Watch.next q (.armTimer auth.expiresAt Option.none) timer).Closed := by
    intro ref isCreated
    have before : q.created ref = true := isCreated
    rw [none ref] at before
    cases before
  refine ⟨trivial, ?_⟩
  rintro (error | random) -
  · exact deferred_watches mayStop closed
  refine ⟨trivial, ?_⟩
  rintro (error | _ | _) -
  · exact openError_deferred_watches mayStop closed
  · refine ⟨trivial, ?_⟩
    rintro (error | _) -
    · exact deferred_watches mayStop closed
    refine ⟨trivial, fun _ _ => ⟨trivial, ?_⟩⟩
    rintro (error | ref) -
    · exact deferred_watches mayStop closed
    · refine activate_watches rfl armed ?_
      intro other isCreated
      by_contra different
      have before : q.created other = true := by
        rw [← isCreated]
        exact (Function.update_of_ne different _ _).symm
      rw [none other] at before
      cases before
  · exact openError_deferred_watches mayStop closed

theorem handshake_aside (server : TunnelServer) (history : List ServeExchange) :
    Aside (handshake server) history := by
  refine ⟨rfl, ?_⟩
  rintro (error | hello)
  · trivial
  dsimp only
  split
  · trivial
  refine ⟨rfl, fun nonce => ⟨rfl, ?_⟩⟩
  rintro (error | _)
  · trivial
  refine ⟨rfl, ?_⟩
  rintro (error | request) <;> trivial

theorem serve_watches (prim : Primitives) (server : TunnelServer)
    (fresh : q.expiry = none) (none : ∀ ref, q.created ref = false) :
    ((serve prim server).elaborate (serveAccess p carrier) {}).Obeys watching
      (fun q' _ => q'.Closed) q := by
  have closed : q.Closed := by
    intro ref isCreated
    rw [none ref] at isCreated
    cases isCreated
  have refused {code message : String} : ((openError code message : ServeProgram Unit).elaborate
        (serveAccess p carrier) {}).Obeys watching (fun q' _ => q'.Closed) q :=
    ⟨trivial, fun _ _ => closed⟩
  have ignored : (∀ q command, watching.permits q (.serve command)) ∧
      ∀ q command response, watching.next q (.serve command) response = q :=
    ⟨fun _ _ => trivial, fun _ _ _ => rfl⟩
  change (Program.elaborate _ (Program.bind _ _) _).Obeys _ _ _
  rw [Program.elaborate_bind]
  refine Program.Obeys.bind ((handshake_aside server []).obeys ignored.1 ignored.2 ?_)
  rintro (error | ⟨hello, challenge, request⟩)
  · exact closed
  dsimp only
  split
  · exact refused
  refine ⟨trivial, fun clock _ => ?_⟩
  change (Program.elaborate _ (Program.bind _ _) _).Obeys _ _ _
  rw [Program.elaborate_bind]
  refine Program.Obeys.bind ((authorizeOpenOnly_aside prim server _ _ _ _
    []).obeys ignored.1 ignored.2 ?_)
  rintro (error | auth)
  · exact refused
  change (Program.elaborate _ (Program.bind _ _) _).Obeys _ _ _
  rw [Program.elaborate_bind]
  refine Program.Obeys.bind ((resolveTarget_aside server _ []).obeys ignored.1 ignored.2 ?_)
  rintro (⟨code, message⟩ | _)
  · exact refused
  · exact serveSession_watches fresh none

theorem handle_watches (prim : Primitives) (server : TunnelServer)
    (fresh : q.expiry = none) (none : ∀ ref, q.created ref = false) :
    (handle prim server p carrier).Obeys watching (fun q' _ => q'.Closed) q := by
  refine Program.Obeys.bind ((serve_watches prim server fresh none).mono ?_)
  rintro q' ⟨error | _, _⟩ closed
  · dsimp only
    split
    · exact closed
    · exact ⟨fun _ => closed, fun _ _ => closed⟩
  · exact ⟨fun _ => closed, fun _ _ => closed⟩

end Obeys

/-! ### All jobs -/

/-- What a goroutine knows when it starts. -/
def RuntimeJob.watch : RuntimeJob → Watch
  | .handle .. => { serves := true }
  | _ => {}

/-- What it knows when it returns. -/
def RuntimeJob.Ends : RuntimeJob → Watch → Unit → Prop
  | .handle .., q, _ => q.Closed
  | _, _, _ => True

theorem RuntimeJob.watches (prim : Primitives) (job : RuntimeJob) :
    (job.code prim).Obeys watching job.Ends job.watch := by
  cases job with
  | newPipeRuntime => exact ⟨trivial, fun _ _ => trivial⟩
  | closePipe p =>
    exact (untimed_obeys (closePipeRuntime_untimed p)).mono fun _ _ _ => trivial
  | closeNode =>
    exact (untimed_obeys closeNodeRuntime_untimed).mono fun _ _ _ => trivial
  | watchNode =>
    exact ⟨trivial, fun _ _ => (untimed_obeys closeNodeRuntime_untimed).mono fun _ _ _ => trivial⟩
  | cancelParent => exact ⟨trivial, fun _ _ => trivial⟩
  | connect p sessionID target carrier => exact connectSession_watches rfl
  | handle server p carrier => exact handle_watches prim server rfl fun _ => rfl
  | work ref => exact sessionWork_watches rfl
  | stop ref => exact stop_watches.mono fun _ _ _ => trivial
  | requestStop ref =>
    exact (untimed_obeys (requestStop_untimed ref)).mono fun _ _ _ => trivial
  | requestedStop ref =>
    exact ⟨trivial, fun resources _ => (untimed_obeys
      (completeStop_untimed ref resources)).mono fun _ _ _ => trivial⟩
  | pump ref direction =>
    exact (untimed_obeys (pumpDirection_untimed ref direction)).mono fun _ _ _ => trivial
  | timer timer => exact runTimer_watches timer
  | tick now => exact ⟨trivial, fun _ _ => trivial⟩

/-! ## Sessions that are over -/

/-- A session is stopping, or its context or one above it is cancelled. -/
def Halting (tree : Tree) (ref : SessionRef) : Prop :=
  ∃ sp, tree.sessions[ref]? = some sp ∧
    (sp.stopping = true ∨ sp.cancelled = true ∨ tree.node.cancelled = true ∨
      ∃ runtime, tree.runtimes[sp.runtime]? = some runtime ∧ runtime.cancelled = true)

theorem Halting.grows {tree later : Tree} {ref : SessionRef}
    (halting : Halting tree ref) (grows : tree.Grows later) : Halting later ref := by
  obtain ⟨sp, found, reason⟩ := halting
  obtain ⟨after, foundAfter, grew⟩ := grows.sessions ref sp found
  refine ⟨after, foundAfter, ?_⟩
  rcases reason with stops | cancelled | node | ⟨runtime, here, isOver⟩
  · exact .inl (grew.stopping stops)
  · exact .inr (.inl (grew.cancelled cancelled))
  · exact .inr (.inr (.inl (grows.node.cancelled node)))
  · obtain ⟨afterRuntime, hereAfter, grewRuntime⟩ :=
      grows.runtimes sp.runtime runtime here
    rw [← grew.runtime] at hereAfter
    exact .inr (.inr (.inr ⟨afterRuntime, hereAfter, grewRuntime.cancelled isOver⟩))

/-- A session that refuses something is over. -/
theorem halting_of_refusal {tree : Tree} {ref : SessionRef} {sp : SessionPump}
    {choice : Bool} (found : tree.sessions[ref]? = some sp)
    (refuses : (sp.stopping || tree.sessionDone choice sp) = true) : Halting tree ref := by
  refine ⟨sp, found, ?_⟩
  grind [Tree.sessionDone]

section Step

variable {c : RuntimeCommand} {tree after : Tree} {response : c.Response}
  {q : Watch}

/-- What a goroutine knows to be over, is. -/
theorem Watch.concluded_next (exec : Tree.Exec c tree response after)
    (known : ∀ ref, q.concluded ref = true → Halting tree ref) (ref : SessionRef)
    (isOver : (q.next c response).concluded ref = true) : Halting after ref := by
  have old (before : q.concluded ref = true) : Halting after ref :=
    (known ref before).grows exec.grows
  have ended {acted : SessionRef} (isEnded : (q.ended acted).concluded ref = true)
      (halting : Halting after acted) : Halting after ref := by
    by_cases same : ref = acted
    · exact same ▸ halting
    · refine old ?_
      rw [← isEnded]
      exact (Function.update_of_ne same _ _).symm
  cases c with
  | session acted command =>
    obtain ⟨choice, sp, changed, found, effect, result⟩ := exec.session_inv
    cases command with
    | beginStop =>
      refine ended isOver ⟨changed, ?_, .inl ?_⟩
      · rw [result, Tree.setSession, List.getElem?_set_self (List.getElem?_eq_some_iff.mp found).1]
      · rcases sp.beginStop_cases with ⟨stops, refused⟩ | ⟨-, taken⟩
        · grind [SessionCommand.effect]
        · grind [SessionCommand.effect]
    | admitWork | setActiveCarrier =>
      cases response with
      | true => exact old isOver
      | false =>
        simp only [SessionCommand.effect] at effect
        split at effect
        · rename_i refuses
          exact ended isOver ((halting_of_refusal found refuses).grows exec.grows)
        · cases effect
    | _ => exact old isOver
  | armTimer deadline session => cases session <;> exact old isOver
  | newSession => cases response <;> exact old isOver
  | _ => exact old isOver

/-! ## Timers -/

/-- The same timer, perhaps with another status. -/
def Timer.Same (timer later : Timer) : Prop :=
  later.deadline = timer.deadline ∧ later.session = timer.session

theorem Timer.Same.refl (timer : Timer) : timer.Same timer :=
  ⟨rfl, rfl⟩

/-- A timer stays, with its deadline and its session. -/
theorem Tree.Exec.timers_grow (exec : Tree.Exec c tree response after)
    {n : TimerRef} {timer : Timer} (found : tree.timers[n]? = some timer) :
    ∃ later, after.timers[n]? = some later ∧ timer.Same later := by
  have set (ref : TimerRef) (old : Timer) (status : TimerStatus)
      (here : tree.timers[ref]? = some old) :
      ∃ later, (tree.setTimer ref old status).timers[n]? = some later ∧ timer.Same later := by
    have grew : old.Same { old with status } := ⟨rfl, rfl⟩
    exact Tree.set_grows Timer.Same.refl here grew n timer found
  cases c with
  | armTimer deadline session =>
    obtain ⟨choice, executed⟩ := exec
    cases executed
    exact Tree.append_grows Timer.Same.refl n timer found
  | stopTimer ref =>
    obtain ⟨old, here, ⟨-, rfl⟩ | ⟨-, rfl⟩⟩ := exec.stopTimer_inv
    · exact set ref old .stopped here
    · exact ⟨timer, found, .refl timer⟩
  | fire ref =>
    obtain ⟨old, here, -, -, -, rfl⟩ := exec.fire_inv
    exact set ref old .fired here
  | callbackRan ref =>
    obtain ⟨old, here, rfl⟩ := exec.callbackRan_inv
    exact set ref old .ran here
  | _ =>
    rw [exec.frame.timers (by simp [Tree.changed])]
    exact ⟨timer, found, .refl timer⟩

/-- A timer is done: it was stopped, or its function has run. -/
def Timer.done (timer : Timer) : Prop :=
  timer.status = .stopped ∨ timer.status = .ran

/-- Only these two accesses make a timer done. -/
theorem Tree.Exec.timer_done (exec : Tree.Exec c tree response after)
    {n : TimerRef} {later : Timer} (found : after.timers[n]? = some later) (isDone : later.done) :
    (∃ timer, tree.timers[n]? = some timer ∧ timer.session = later.session ∧
      (timer.done ∨ c = .stopTimer n ∨ c = .callbackRan n)) := by
  have set (ref : TimerRef) (old : Timer) (status : TimerStatus)
      (here : tree.timers[ref]? = some old)
      (found : (tree.setTimer ref old status).timers[n]? = some later)
      (reason : ref = n → old.done ∨ c = .stopTimer n ∨ c = .callbackRan n) :
      ∃ timer, tree.timers[n]? = some timer ∧ timer.session = later.session ∧
        (timer.done ∨ c = .stopTimer n ∨ c = .callbackRan n) := by
    grind [Tree.setTimer]
  cases c with
  | armTimer deadline session =>
    obtain ⟨choice, executed⟩ := exec
    cases executed
    by_cases same : n = tree.timers.length
    · subst same
      rw [List.getElem?_concat_length] at found
      cases found
      rcases isDone with ⟨⟨⟩⟩ | ⟨⟨⟩⟩
    · grind
  | stopTimer ref =>
    obtain ⟨old, here, ⟨-, rfl⟩ | ⟨-, rfl⟩⟩ := exec.stopTimer_inv
    · exact set ref old .stopped here found fun same =>
        .inr (.inl (by rw [same]))
    · exact ⟨later, found, rfl, .inl isDone⟩
  | fire ref =>
    obtain ⟨old, here, armed, -, -, rfl⟩ := exec.fire_inv
    by_cases same : n = ref
    · subst same
      rw [Tree.setTimer, List.getElem?_set_self (List.getElem?_eq_some_iff.mp here).1] at found
      cases found
      rcases isDone with ⟨⟨⟩⟩ | ⟨⟨⟩⟩
    · grind
  | callbackRan ref =>
    obtain ⟨old, here, rfl⟩ := exec.callbackRan_inv
    exact set ref old .ran here found fun same => .inr (.inr (by rw [same]))
  | _ =>
    rw [exec.frame.timers (by simp [Tree.changed])] at found
    exact ⟨later, found, rfl, .inl isDone⟩

end Step

/-! ## The invariant in every interleaving -/

abbrev RuntimeWorld :=
  World RuntimeJob RuntimeCommand RuntimeCommand.Response Unit Tree
abbrev RuntimeAction :=
  Action RuntimeJob RuntimeCommand RuntimeCommand.Response Unit

/-- What goroutines know of timers agrees with the tree and with the history. -/
structure Watched (world : RuntimeWorld) (q : ℕ → Watch) : Prop where
  armed : ∀ t n session, (q t).armed n = some session →
    ∃ timer, world.state.timers[n]? = some timer ∧ timer.session = session
  fired : ∀ t n session, (q t).fired n = some session →
    ∃ timer, world.state.timers[n]? = some timer ∧ timer.session = session
  concluded : ∀ t ref, (q t).concluded ref = true → Halting world.state ref
  timers : ∀ (n : TimerRef) (timer : Timer) (ref : SessionRef),
    world.state.timers[n]? = some timer → timer.session = some ref →
    timer.done → Halting world.state ref
  guarded : ∀ t ref, (q t).guarded ref = true → ∃ event ∈ world.history,
    event.thread = t ∧ ∃ deadline timer, event.action = .ran (.armTimer deadline (some ref)) timer
  created : ∀ event ∈ world.history, ∀ p id target ref,
    event.action = .ran (.newSession p id target) (.ok ref) →
    (q event.thread).created ref = true
  deadlines : ∀ event ∈ world.history, ∀ deadline session n,
    event.action = .ran (.armTimer deadline session) n →
    (q event.thread).expiry = some deadline ∧ ∃ timer, world.state.timers[n]? = some timer ∧
        timer.deadline = deadline ∧ timer.session = session

section Watched

variable {world : RuntimeWorld} {q : ℕ → Watch} {t : ℕ}

theorem Watched.start : Watched ⟨{}, []⟩ fun _ => {} := by
  constructor <;> simp

/-- An event that is no access tells nothing. -/
theorem Watched.silent (watched : Watched world q) (action : RuntimeAction)
    (silent : ∀ c response, action ≠ .ran c response) :
    Watched (world.record t action world.state) q := by
  have old {event : RuntimeEvent} {c : RuntimeCommand} {response : c.Response}
      (member : event ∈ (world.record t action world.state).history)
      (isRan : event.action = .ran c response) : event ∈ world.history := by
    rcases List.mem_append.mp member with before | now
    · exact before
    · grind
  refine ⟨watched.armed, watched.fired, watched.concluded, watched.timers, ?_, ?_, ?_⟩
  · intro t' ref isGuarded
    obtain ⟨event, member, facts⟩ := watched.guarded t' ref isGuarded
    exact ⟨event, List.mem_append_left _ member, facts⟩
  · exact fun event member p id target ref isRan =>
      watched.created event (old member isRan) p id target ref isRan
  · exact fun event member deadline session n isRan =>
      watched.deadlines event (old member isRan) deadline session n isRan

/-- A goroutine starts. -/
theorem Watched.spawn (watched : Watched world q) (idle : q t = {}) (job : RuntimeJob) :
    Watched (world.record t (.spawned job) world.state) (Function.update q t job.watch) := by
  have silent : Watched (world.record t (.spawned job) world.state) q :=
    watched.silent _ (by simp)
  have fresh : ∃ serves, job.watch = { serves } := by
    cases job <;> exact ⟨_, rfl⟩
  -- The new goroutine knows as little as before.
  obtain ⟨armed, fired, concluded, timers, guarded, created, deadlines⟩ := silent
  constructor <;> grind [Function.update_apply]

variable {c : RuntimeCommand} {response : c.Response} {after : Tree}

/-- What an access tells of timers and sessions. -/
theorem Watch.next_cases (l : Watch) (c : RuntimeCommand) (response : c.Response) :
    l.Keeps (l.next c response) ∨
    (∃ deadline session n, (.ran c response : RuntimeAction) = .ran (.armTimer deadline session) n ∧
      (l.next c response).expiry = some deadline ∧
      (∀ m, (l.next c response).armed m = if m = n then some session else l.armed m) ∧
      (l.next c response).fired = l.fired ∧ (l.next c response).created = l.created ∧
      ∀ ref, (l.next c response).guarded ref = true → l.guarded ref = true ∨ session = some ref) ∨
    (∃ n session, (.ran c response : RuntimeAction) = .ran (.fire n) session ∧
      ∃ fired, l.next c response = { l with fired } ∧
        ∀ m, fired m = if m = n then some session else l.fired m) ∨
    ∃ ref created, l.next c response = { l with created } ∧
      ∀ other, created other = if other = ref then true else l.created other := by
  cases c with
  | armTimer deadline session =>
    refine .inr (.inl ⟨deadline, session, response, rfl, ?_⟩)
    cases session with
    | none =>
      exact ⟨rfl, fun _ => Function.update_apply .., rfl, rfl, fun _ isGuarded => .inl isGuarded⟩
    | some guarded =>
      refine ⟨rfl, fun _ => Function.update_apply .., rfl, rfl, fun ref isGuarded => ?_⟩
      have updated : Function.update l.guarded guarded true ref = true := isGuarded
      grind [Function.update_apply]
  | fire n => exact .inr (.inr (.inl ⟨n, response, rfl, _, rfl, fun _ => Function.update_apply ..⟩))
  | newSession =>
    cases response with
    | error error => exact .inl (.refl l)
    | ok ref => exact .inr (.inr (.inr ⟨ref, _, rfl, fun _ => Function.update_apply ..⟩))
  | session ref command => exact .inl (l.keeps_session ref command response)
  | _ => exact .inl (.refl l)

variable {l : Watch} {n : TimerRef} {session : Option SessionRef} {ref : SessionRef}

/-- A timer that was armed by this access or before. -/
theorem Watch.next_armed (isArmed : (l.next c response).armed n = some session) :
    l.armed n = some session ∨ ∃ deadline,
      (.ran c response : RuntimeAction) = .ran (.armTimer deadline session) n := by
  have cases := l.next_cases c response
  grind [Watch.Keeps.armed]

/-- A timer that fired now or before. -/
theorem Watch.next_fired (isFired : (l.next c response).fired n = some session) :
    l.fired n = some session ∨ (.ran c response : RuntimeAction) = .ran (.fire n) session := by
  have cases := l.next_cases c response
  grind [Watch.Keeps.fired]

/-- A session for which a timer was armed now or before. -/
theorem Watch.next_guarded (isGuarded : (l.next c response).guarded ref = true) :
    l.guarded ref = true ∨ ∃ deadline timer, (.ran c response : RuntimeAction) =
        .ran (.armTimer deadline (some ref)) timer := by
  obtain kept | ⟨deadline, session, n, isArming, -, -, -, -, guards⟩ | ⟨-, -, -, fired, next, -⟩ |
      ⟨-, created, next, -⟩ := l.next_cases c response
  · exact .inl (kept.guarded ▸ isGuarded)
  · grind
  all_goals
    rw [next] at isGuarded
    exact .inl isGuarded

/-- A session that was created stays so. -/
theorem Watch.created_next (isCreated : l.created ref = true) :
    (l.next c response).created ref = true := by
  have cases := l.next_cases c response
  grind [Watch.Keeps.created]

/-- The timers of a goroutine have one deadline. -/
theorem Watch.expiry_next {deadline : Time} (permits : l.permits c)
    (isExpiry : l.expiry = some deadline) : (l.next c response).expiry = some deadline := by
  obtain kept | ⟨other, session, n, isArming, next, -⟩ |
      ⟨n, session, -, fired, next, -⟩ | ⟨ref, created, next, -⟩ :=
    l.next_cases c response
  · exact kept.expiry.trans isExpiry
  · cases isArming
    grind [Watch.permits]
  · rw [next, isExpiry]
  · rw [next, isExpiry]

/-- **Every permitted access keeps this agreement.** -/
theorem Watched.step (watched : Watched world q) (permits : (q t).permits c)
    (exec : Tree.Exec c world.state response after) :
    Watched (world.record t (.ran c response) after)
      (Function.update q t ((q t).next c response)) := by
  have kept {n : TimerRef} {session : Option SessionRef}
      (before : ∃ timer, world.state.timers[n]? = some timer ∧ timer.session = session) :
      ∃ timer, after.timers[n]? = some timer ∧ timer.session = session := by
    obtain ⟨timer, found, isSession⟩ := before
    obtain ⟨later, foundLater, same⟩ := exec.timers_grow found
    exact ⟨later, foundLater, same.2.trans isSession⟩
  have knows (t' : ℕ) (ref : SessionRef)
      (isOver : (Function.update q t ((q t).next c response) t').concluded ref =
        true) : Halting after ref := by
    rcases update_cases q t ((q t).next c response) t' with
      ⟨rfl, same⟩ | ⟨-, same⟩ <;> rw [same] at isOver
    · exact Watch.concluded_next exec (watched.concluded t') ref isOver
    · exact (watched.concluded t' ref isOver).grows exec.grows
  have settled {n : TimerRef} {session : Option SessionRef} {timer : Timer} {ref : SessionRef}
      (settles : (q t).Settles session)
      (before : ∃ timer, world.state.timers[n]? = some timer ∧ timer.session = session)
      (found : world.state.timers[n]? = some timer) (isSession : timer.session = some ref) :
      Halting after ref := by
    obtain ⟨same, foundSame, sessionSame⟩ := before
    obtain rfl := Option.some.inj (found.symm.trans foundSame)
    exact (watched.concluded t ref (settles ref
      (sessionSame.symm.trans isSession))).grows exec.grows
  refine ⟨?_, ?_, knows, ?_, ?_, ?_, ?_⟩
  · intro t' n session isArmed
    rcases update_cases q t ((q t).next c response) t' with
      ⟨rfl, same⟩ | ⟨-, same⟩ <;> rw [same] at isArmed
    · rcases Watch.next_armed isArmed with before | ⟨deadline, isArming⟩
      · exact kept (watched.armed t' n session before)
      · cases isArming
        obtain ⟨choice, executed⟩ := exec
        cases executed
        exact ⟨_, List.getElem?_concat_length, rfl⟩
    · exact kept (watched.armed t' n session isArmed)
  · intro t' n session isFired
    rcases update_cases q t ((q t).next c response) t' with
      ⟨rfl, same⟩ | ⟨-, same⟩ <;> rw [same] at isFired
    · rcases Watch.next_fired isFired with before | isFiring
      · exact kept (watched.fired t' n session before)
      · cases isFiring
        obtain ⟨timer, found, -, -, rfl, -⟩ := exec.fire_inv
        exact kept ⟨timer, found, rfl⟩
    · exact kept (watched.fired t' n session isFired)
  · intro n later ref found isSession isDone
    obtain ⟨timer, foundBefore, sameSession, reason⟩ :=
      exec.timer_done found isDone
    rw [isSession] at sameSession
    rcases reason with before | rfl | rfl
    · exact (watched.timers n timer ref foundBefore sameSession before).grows exec.grows
    · -- Its owner knows that the session is over.
      obtain ⟨session, isArmed, settles⟩ := permits
      exact settled settles (watched.armed t n session isArmed) foundBefore sameSession
    · -- Its function has asked the session to stop.
      obtain ⟨session, isFired, settles⟩ := permits
      exact settled settles (watched.fired t n session isFired) foundBefore sameSession
  · intro t' ref isGuarded
    rcases update_cases q t ((q t).next c response) t' with
      ⟨rfl, same⟩ | ⟨-, same⟩ <;> rw [same] at isGuarded
    · rcases Watch.next_guarded isGuarded with before | isArming
      · obtain ⟨event, member, facts⟩ := watched.guarded t' ref before
        exact ⟨event, List.mem_append_left _ member, facts⟩
      · exact ⟨_, List.mem_append_right _ (List.mem_singleton_self _), rfl, isArming⟩
    · obtain ⟨event, member, facts⟩ := watched.guarded t' ref isGuarded
      exact ⟨event, List.mem_append_left _ member, facts⟩
  · intro event member p id target ref isRan
    rcases List.mem_append.mp member with old | new
    · have before := watched.created event old p id target ref isRan
      rcases update_cases q t ((q t).next c response) event.thread with
        ⟨isActing, same⟩ | ⟨-, same⟩ <;> rw [same]
      · exact Watch.created_next (isActing ▸ before)
      · exact before
    · obtain rfl := List.mem_singleton.mp new
      cases isRan
      rw [Function.update_self]
      exact Function.update_self _ _ _
  · intro event member deadline session n isRan
    rcases List.mem_append.mp member with old | new
    · obtain ⟨isExpiry, timer, found, isDeadline, isSession⟩ :=
        watched.deadlines event old deadline session n isRan
      obtain ⟨later, foundLater, sameTimer⟩ := exec.timers_grow found
      refine ⟨?_, later, foundLater, sameTimer.1.trans isDeadline, sameTimer.2.trans isSession⟩
      rcases update_cases q t ((q t).next c response) event.thread with
        ⟨isActing, same⟩ | ⟨-, same⟩ <;> rw [same]
      · exact Watch.expiry_next permits (isActing ▸ isExpiry)
      · exact isExpiry
    · obtain rfl := List.mem_singleton.mp new
      cases isRan
      obtain ⟨choice, executed⟩ := exec
      cases executed
      refine ⟨?_, _, List.getElem?_concat_length, rfl, rfl⟩
      rw [Function.update_self]
      cases session <;> rfl

end Watched

/-! ## The promise of the package -/

/-- What the goroutines of a pool know of timers. -/
def watchIn (pool : RuntimePool) (t : ℕ) : Watch :=
  watching.stateOf RuntimeJob.watch {} t pool.history

/-- A session is stopping, or the context of its runtime is cancelled. -/
def Halted (tree : Tree) (ref : SessionRef) : Prop :=
  ∃ sp, tree.sessions[ref]? = some sp ∧ (sp.stopping = true ∨ tree.node.cancelled = true ∨
      ∃ runtime, tree.runtimes[sp.runtime]? = some runtime ∧ runtime.cancelled = true)

/-- Every timer that is due was stopped, or its function has run. -/
def DueTimersDone (tree : Tree) : Prop :=
  ∀ timer ∈ tree.timers, ¬timer.deadline.after tree.clock → timer.done

/-- `serve` has returned to `handle` in thread `t`: `handle` ends the stream next,
or it is at its end, or it has returned. -/
def ServeReturned (pool : RuntimePool) (t : ℕ) (carrier : CarrierRef) : Prop :=
  (∃ action, pool.threads[t]? = some (some (.call (.stream carrier action) .done))) ∨
  pool.threads[t]? = some (some (.done ())) ∨
  ∃ event ∈ pool.history, event.thread = t ∧ event.action = .returned ()

/-- What holds of the handler of a stream in thread `t`: `expiry` — its timers
have one deadline, the expiry of the lease; `handedOver` — after it has handed the
timer over to a session, if the expiry has passed and all due callbacks have run,
the session is halted; `returned` — after `serve` has returned, the session it
created is halted; `guarded` — it asks for work of a session only after it has
armed the timer of the session. -/
structure WithinAuthorization (pool : RuntimePool) (t : ℕ) (carrier : CarrierRef) : Prop where
  expiry : ∀ event ∈ pool.history, ∀ other ∈ pool.history, event.thread = t → other.thread = t →
    ∀ deadline session n deadline' session' n', event.action = .ran (.armTimer deadline session) n →
      other.action = .ran (.armTimer deadline' session') n' →
      deadline = deadline'
  handedOver : ∀ event ∈ pool.history, event.thread = t →
    ∀ deadline ref n, event.action = .ran (.armTimer deadline (some ref)) n →
      ¬deadline.after pool.state.clock → DueTimersDone pool.state →
      Halted pool.state ref
  returned : ServeReturned pool t carrier →
    ∀ event ∈ pool.history, event.thread = t → ∀ p id target ref,
      event.action = .ran (.newSession p id target) (.ok ref) →
      Halted pool.state ref
  guarded : ∀ (k : ℕ) (event : RuntimeEvent) (ref : SessionRef)
    (admitted : Bool), pool.history[k]? = some event → event.thread = t →
    event.action = .ran (.session ref .admitWork) admitted →
    ∃ i earlier, i < k ∧ pool.history[i]? = some earlier ∧ earlier.thread = t ∧ ∃ deadline n,
        earlier.action = .ran (.armTimer deadline (some ref)) n

section Reachable

variable {prim : Primitives} {pool : RuntimePool}

section

variable (reachable : (runtimeSystem prim).Reachable {} pool)

include reachable

theorem runtimeSystem_watched : Watched pool.toWorld (watchIn pool) :=
  reachable.protocol_world (P := watching)
    (fun _ _ _ _ => Tree.Exec.expected) (RuntimeJob.watches prim)
    Watched.start
    (fun _ _ _ job idle watched => watched.spawn idle job)
    (fun _ _ _ _ _ _ permits exec watched => watched.step permits exec)
    fun _ _ _ value watched => watched.silent (.returned value) (by simp)

theorem runtimeSystem_watch_obeyed :
    System.Obeyed watching RuntimeJob.watch RuntimeJob.Ends {} pool :=
  reachable.obeyed (fun _ _ _ _ => Tree.Exec.expected) (RuntimeJob.watches prim)

/-- A handler stays a handler. -/
theorem watchIn_serves {t : ℕ} {job : RuntimeJob} (runs : pool.toWorld.Runs t job) :
    (watchIn pool t).serves = job.watch.serves := by
  refine reachable.lasting (P := watching)
    (K := fun job q => Watch.serves q = job.watch.serves) (fun _ => rfl) ?_ runs
  intro job q c response same
  cases c with
  | session ref command =>
    exact (Watch.keeps_session q ref command response).serves.trans same
  | armTimer deadline guards => cases guards <;> exact same
  | newSession => cases response <;> exact same
  | _ => exact same

/-- When `serve` has returned, the sessions of the handler are over. -/
theorem ServeReturned.closed {server : TunnelServer} {p : RuntimeRef} {carrier : CarrierRef} {t : ℕ}
    (runs : pool.toWorld.Runs t (.handle server p carrier))
    (returned : ServeReturned pool t carrier) : (watchIn pool t).Closed := by
  have obeyed := runtimeSystem_watch_obeyed reachable
  rcases returned with ⟨action, ready⟩ | ready | ⟨event, member, rfl, isReturn⟩
  · obtain ⟨-, -, permits, -⟩ := obeyed.threads _ _ ready
    exact permits (watchIn_serves reachable runs)
  · obtain ⟨job, runsJob, ends⟩ := obeyed.threads _ _ ready
    obtain rfl := reachable.runs_unique runsJob runs
    exact ends
  · obtain ⟨-, job, runsJob, ends⟩ := obeyed.returned event member () isReturn
    obtain rfl := reachable.runs_unique runsJob runs
    exact ends

/-- A session whose own context is cancelled is stopping. -/
theorem Halting.halted
    {ref : SessionRef} (halting : Halting pool.state ref) : Halted pool.state ref := by
  obtain ⟨sp, found, stops | cancelled | above⟩ := halting
  · exact ⟨sp, found, .inl stops⟩
  · exact ⟨sp, found, .inl ((runtimeSystem_stream reachable).cancelling.sessions
      ref sp found cancelled)⟩
  · exact ⟨sp, found, .inr above⟩

end

end Reachable

/-! ### A session whose authorization expires -/

instance (timer : Timer) : Decidable timer.done :=
  inferInstanceAs (Decidable (_ ∨ _))

instance (tree : Tree) : Decidable (DueTimersDone tree) :=
  inferInstanceAs (Decidable (∀ timer ∈ tree.timers, _))

/-- A session timer of thread `t` is armed whose deadline has passed. -/
def RuntimeEvent.expired (t : ℕ) (ref : SessionRef) (clock : Time) (event : RuntimeEvent) : Bool :=
  match event.action with
  | .ran (.armTimer deadline (some session)) _ =>
    event.thread == t && session == ref && !deadline.after clock
  | _ => false

theorem RuntimeEvent.of_expired {t : ℕ} {ref : SessionRef} {clock : Time}
    {events : List RuntimeEvent} (expired : events.any (RuntimeEvent.expired t ref clock) = true) :
    ∃ event ∈ events, event.thread = t ∧ ∃ deadline n,
      event.action = .ran (.armTimer deadline (some ref)) n ∧
      ¬deadline.after clock := by
  grind [RuntimeEvent.expired]

/-- While the session of stream 7 is active, the lease expires, and the function
of the second timer stops the session. -/
def expiredScript : List (Decision RuntimeJob Bool) :=
  steps 22 1 ++ [.spawn (.tick ⟨10 ^ 30, 0⟩)] ++ steps 1 2 ++ [.spawn (.timer 1)] ++ steps 6 3 ++
    [.spawn (.pump 0 .carrierToTarget)] ++ steps 3 4 ++
    [.spawn (.pump 0 .targetToCarrier)] ++ steps 3 5 ++ steps 4 1 ++ steps 4 3

end Tubo
