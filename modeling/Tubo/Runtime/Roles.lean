import Tubo.Runtime.Session

/-!
# What a goroutine holds

A goroutine that works on sessions holds something of them at each moment: it has
been admitted to do work, it is the one that completes a stop and has come to
some point of it, it owns the session it created, it runs one direction of its
pump.  `Local` is this knowledge, and `roles` the protocol by which it changes:
a goroutine finishes only work it was admitted for, and it does each step of a
stop only as the closer and in order.

Every program of `Runtime/Session` obeys the protocol.  The interleavings of
goroutines are left to the invariants of the tree.
-/

namespace Tubo

open Concurrency

/-! ## One session -/

/-- What the closer of a session has to do next. -/
inductive StopPhase
  | cancel
  | load
  | terminate (clean : Bool)
  | target
  | work
  | remove
  | signal
  deriving DecidableEq, Repr

namespace StopResources

/-- The phase after the terminal action on the carrier. -/
def afterCarrier (resources : StopResources) : StopPhase :=
  if resources.target then .target else .work

/-- The phase after the cancellation. -/
def afterCancel (resources : StopResources) : StopPhase :=
  if resources.active.isSome then .load else resources.afterCarrier

end StopResources

/-- What the goroutine that created a session has done with it. -/
inductive Ownership
  | none
  | created
  | refused
  | installed (carrier : CarrierRef)
  | launched (carrier : CarrierRef)
  | awaited (carrier : CarrierRef) (cleanA cleanB : Bool)
  | stored (carrier : CarrierRef)
  deriving DecidableEq, Repr

namespace Ownership

/-- The carrier that the session accepted. -/
def carrier? : Ownership → Option CarrierRef
  | .none | .created | .refused => Option.none
  | .installed carrier | .launched carrier | .awaited carrier _ _
  | .stored carrier => some carrier

/-- The pump is started. -/
def launch : Ownership → Ownership
  | .installed carrier => .launched carrier
  | other => other

/-- Both directions have ended. -/
def await (cleanA cleanB : Bool) : Ownership → Ownership
  | .launched carrier => .awaited carrier cleanA cleanB
  | other => other

/-- The result is stored. -/
def store : Ownership → Ownership
  | .awaited carrier _ _ => .stored carrier
  | other => other

@[simp]
theorem launch_carrier? (o : Ownership) : o.launch.carrier? = o.carrier? := by
  cases o <;> rfl

@[simp]
theorem await_carrier? (cleanA cleanB : Bool) (o : Ownership) :
    (o.await cleanA cleanB).carrier? = o.carrier? := by
  cases o <;> rfl

@[simp]
theorem store_carrier? (o : Ownership) : o.store.carrier? = o.carrier? := by
  cases o <;> rfl

end Ownership

/-- What a goroutine holds of one session: admitted work that it has not
finished, the stop it completes, whether it has seen the stop complete or was
denied work, its ownership, and the direction of the pump it runs, with the
result. -/
structure Role where
  working : Bool := false
  closing : Option (StopResources × StopPhase) := none
  stopped : Bool := false
  denied : Bool := false
  owner : Ownership := .none
  direction : Option (Direction × Option Bool) := none

namespace Role

/-- The closer comes to the next phase. -/
def advance (role : Role) (phase : StopResources → StopPhase) : Role :=
  { role with closing := role.closing.map fun held => (held.1, phase held.1) }

/-- The accesses a goroutine may make. -/
def permits (role : Role) : SessionCommand → Prop
  | .setActiveCarrier _ => role.owner = .created
  | .admitWork => role.working = false
  | .finishWork => role.working = true
  | .beginStop => role.closing = none
  | .go resources => role.closing = some (resources, .cancel)
  | .started => role.closing = none
  | .cancel => ∃ resources, role.closing = some (resources, .cancel)
  | .loadCompletedCleanly =>
    ∃ resources, role.closing = some (resources, .load)
  | .terminate carrier action => ∃ resources clean,
      role.closing = some (resources, .terminate clean) ∧
      resources.active = some carrier ∧
      action = if clean then .close else .reset
  | .closeTarget => ∃ resources, role.closing = some (resources, .target)
  | .awaitWorkDone => ∃ resources, role.closing = some (resources, .work)
  | .closeStopDone => ∃ resources, role.closing = some (resources, .signal)
  | .awaitStopDone => True
  | .activeCarrier => True
  | .launch => ∃ carrier, role.owner = .installed carrier
  | .startDirection _ => role.direction = none
  | .copy direction => role.direction = some (direction, none)
  | .endDirection direction clean =>
    role.direction = some (direction, some clean)
  | .awaitDirections => ∃ carrier, role.owner = .launched carrier
  | .storeCompletedCleanly clean => ∃ carrier cleanA cleanB,
      role.owner = .awaited carrier cleanA cleanB ∧ clean = (cleanA && cleanB)

/-- What it holds afterwards. -/
def next (role : Role) : (c : SessionCommand) → c.Response → Role
  | .setActiveCarrier carrier, installed =>
    { role with owner := if installed then .installed carrier else .refused }
  | .admitWork, admitted =>
    if admitted then { role with working := true }
    else { role with denied := true }
  | .finishWork, _ => { role with working := false }
  | .beginStop, resources => { role with closing := resources.map (·, .cancel) }
  | .go _, _ => { role with closing := none }
  | .started, resources => { role with closing := some (resources, .cancel) }
  | .cancel, _ => role.advance StopResources.afterCancel
  | .loadCompletedCleanly, clean => role.advance fun _ => .terminate clean
  | .terminate .., _ => role.advance StopResources.afterCarrier
  | .closeTarget, _ => role.advance fun _ => .work
  | .awaitWorkDone, _ => role.advance fun _ => .remove
  | .closeStopDone, _ => { role with closing := none, stopped := true }
  | .awaitStopDone, _ => { role with stopped := true }
  | .activeCarrier, _ => role
  | .launch, _ => { role with owner := role.owner.launch }
  | .startDirection direction, _ =>
    { role with direction := some (direction, none) }
  | .copy direction, clean =>
    { role with direction := some (direction, some clean) }
  | .endDirection .., _ => { role with direction := none }
  | .awaitDirections, clean =>
    { role with owner := role.owner.await clean.1 clean.2 }
  | .storeCompletedCleanly _, _ => { role with owner := role.owner.store }

end Role

/-! ## The tree -/

/-- What a goroutine knows of a runtime: that it is the one that closes it, the
sessions it has to stop for that, and that the close is complete. -/
structure PipeRole where
  closing : Bool := false
  snapshot : Option (List SessionRef) := none
  closed : Bool := false

/-- The same for the node. -/
structure NodeRole where
  snapshot : Option (List RuntimeRef) := none
  closed : Bool := false

/-- Everything a goroutine holds; `streamed` are the streams it has closed or
reset itself. -/
structure Local where
  role : SessionRef → Role := fun _ => {}
  pipe : RuntimeRef → PipeRole := fun _ => {}
  node : NodeRole := {}
  streamed : List CarrierRef := []

namespace Local

/-- Change the role in a session. -/
def withRole (q : Local) (ref : SessionRef) (role : Role) : Local :=
  { q with role := Function.update q.role ref role }

/-- Change what is known of a runtime. -/
def withPipe (q : Local) (ref : RuntimeRef) (pipe : PipeRole) : Local :=
  { q with pipe := Function.update q.pipe ref pipe }

@[simp]
theorem withRole_role_self (q : Local) (ref : SessionRef) (role : Role) :
    (q.withRole ref role).role ref = role :=
  Function.update_self _ _ _

theorem withRole_role_of_ne {q : Local} {ref other : SessionRef} {role : Role}
    (different : other ≠ ref) : (q.withRole ref role).role other = q.role other :=
  Function.update_of_ne different _ _

@[simp]
theorem withRole_withRole (q : Local) (ref : SessionRef) (first second : Role) :
    (q.withRole ref first).withRole ref second = q.withRole ref second := by
  simp [withRole]

@[simp]
theorem withRole_self (q : Local) (ref : SessionRef) : q.withRole ref (q.role ref) = q := by
  simp [withRole]

@[simp]
theorem withPipe_pipe_self (q : Local) (ref : RuntimeRef) (pipe : PipeRole) :
    (q.withPipe ref pipe).pipe ref = pipe :=
  Function.update_self _ _ _

theorem withPipe_pipe_of_ne {q : Local} {ref other : RuntimeRef}
    {pipe : PipeRole} (different : other ≠ ref) : (q.withPipe ref pipe).pipe other = q.pipe other :=
  Function.update_of_ne different _ _

/-- Every session of the snapshot of a runtime has been stopped. -/
def Emptied (q : Local) (ref : RuntimeRef) : Prop :=
  ∃ sessions, (q.pipe ref).snapshot = some sessions ∧
    ∀ session ∈ sessions, (q.role session).stopped = true

/-- The accesses a goroutine may make. -/
def permits (q : Local) : RuntimeCommand → Prop
  | .session ref command => (q.role ref).permits command
  | .remove ref =>
    ∃ resources, (q.role ref).closing = some (resources, .remove)
  | .closeRegistry ref =>
    (q.pipe ref).closing = true ∧ (q.pipe ref).snapshot = none
  | .removePipe ref => q.Emptied ref
  | .closePipeDone ref => q.Emptied ref
  | .closeNodeDone => ∃ pipes, q.node.snapshot = some pipes ∧
      ∀ pipe ∈ pipes, (q.pipe pipe).closed = true
  | _ => True

/-- What it holds afterwards. -/
def next (q : Local) : (c : RuntimeCommand) → c.Response → Local
  | .session ref command, response =>
    q.withRole ref ((q.role ref).next command response)
  | .remove ref, _ => q.withRole ref ((q.role ref).advance fun _ => .signal)
  | .newSession .., .ok ref => q.withRole ref { owner := .created }
  | .closePipe ref, true =>
    q.withPipe ref { q.pipe ref with closing := true, snapshot := none }
  | .closeRegistry ref, sessions =>
    q.withPipe ref { q.pipe ref with snapshot := some sessions }
  | .closePipeDone ref, _ => q.withPipe ref { q.pipe ref with closed := true }
  | .awaitPipeDone ref, _ => q.withPipe ref { q.pipe ref with closed := true }
  | .closeNode, some pipes =>
    { q with node := { q.node with snapshot := some pipes } }
  | .closeNodeDone, _ => { q with node := { q.node with closed := true } }
  | .awaitNodeDone, _ => { q with node := { q.node with closed := true } }
  | .stream carrier _, _ => { q with streamed := carrier :: q.streamed }
  | _, _ => q

end Local

/-- The answers a goroutine gets. -/
def RuntimeCommand.Expected : (c : RuntimeCommand) → c.Response → Prop
  | .serve command, response => command.Foreign response
  | .newSession .., .error error => ¬error.is errInitialCarrierTransferred
  | _, _ => True

/-- The protocol of a goroutine. -/
def roles : Protocol RuntimeCommand RuntimeCommand.Response where
  State := Local
  permits := Local.permits
  expects := RuntimeCommand.Expected
  next := Local.next

/-! ## Programs that obey it -/

/-- A role at the end of a stop. -/
def Role.stop (role : Role) : Role :=
  { role with closing := none, stopped := true }

section Obeys

variable {q : Local} {ref : SessionRef} {resources : StopResources}

attribute [local simp] Program.Obeys roles Local.next Role.next Role.advance

theorem terminateCarrier_obeys
    (closing : (q.role ref).closing = some (resources, resources.afterCancel)) :
    (terminateCarrier ref resources).Obeys roles (fun q' _ =>
      q' = q.withRole ref { q.role ref with
        closing := some (resources, resources.afterCarrier) }) q := by
  unfold terminateCarrier
  split
  · rename_i absent
    have same : resources.afterCancel = resources.afterCarrier := by
      simp [StopResources.afterCancel, absent]
    rw [same] at closing
    change q = _
    conv_lhs => rw [← q.withRole_self ref]
    rw [← closing]
  · rename_i carrier present
    have isLoad : resources.afterCancel = .load := by
      simp [StopResources.afterCancel, present]
    rw [isLoad] at closing
    refine ⟨⟨resources, closing⟩, fun clean _ => ⟨⟨resources, clean, ?_, present,
      rfl⟩, fun _ _ => ?_⟩⟩
    · simp [closing]
    · simp [closing]

theorem terminateTarget_obeys (closing : (q.role ref).closing =
      some (resources, resources.afterCarrier)) :
    (terminateTarget ref resources).Obeys roles (fun q' _ =>
      q' = q.withRole ref { q.role ref with
        closing := some (resources, .work) }) q := by
  unfold terminateTarget
  split
  · rename_i present
    have isTarget : resources.afterCarrier = .target := by
      simp [StopResources.afterCarrier, present]
    rw [isTarget] at closing
    refine ⟨⟨resources, closing⟩, fun _ _ => ?_⟩
    simp [closing]
  · rename_i absent
    have isWork : resources.afterCarrier = .work := by
      simp [StopResources.afterCarrier, absent]
    rw [isWork] at closing
    change q = _
    conv_lhs => rw [← q.withRole_self ref]
    rw [← closing]

theorem completeStop_obeys (closing : (q.role ref).closing = some (resources, .cancel)) :
    (completeStop ref resources).Obeys roles (fun q' _ =>
      q' = q.withRole ref (q.role ref).stop) q := by
  refine ⟨⟨resources, closing⟩, fun _ _ => ?_⟩
  refine Program.Obeys.bind ((terminateCarrier_obeys ?_).mono ?_)
  · simp [closing]
  · rintro _ - rfl
    refine Program.Obeys.bind ((terminateTarget_obeys ?_).mono ?_)
    · exact congrArg Role.closing (Local.withRole_role_self _ _ _)
    · rintro _ - rfl
      refine ⟨⟨resources, ?_⟩, fun _ _ => ⟨⟨resources, ?_⟩, fun _ _ =>
        ⟨⟨resources, ?_⟩, fun _ _ => ?_⟩⟩⟩
      · simp
      · simp
      · simp
      · simp [Role.stop]

theorem stop_obeys (idle : (q.role ref).closing = none) : (stop ref).Obeys roles (fun q' _ =>
      q' = q.withRole ref (q.role ref).stop) q := by
  refine ⟨idle, ?_⟩
  rintro (_ | resources) -
  · refine ⟨trivial, fun _ _ => ?_⟩
    simp [Role.stop]
  · refine (completeStop_obeys ?_).mono ?_
    · simp
    · rintro _ - rfl
      simp [Role.stop]

theorem requestStop_obeys (idle : (q.role ref).closing = none) :
    (requestStop ref).Obeys roles (fun q' _ => q' = q) q := by
  have same : { q.role ref with closing := none } = q.role ref := by
    rw [← idle]
  refine ⟨idle, ?_⟩
  rintro (_ | resources) -
  · change q.withRole ref { q.role ref with closing := none } = q
    rw [same, q.withRole_self]
  · refine ⟨?_, fun _ _ => ?_⟩
    · change Role.closing _ = _
      simp
    · change (q.withRole ref _).withRole ref _ = q
      simp [same]

theorem requestedStop_obeys (idle : (q.role ref).closing = none) :
    (requestedStop ref).Obeys roles (fun _ _ => True) q := by
  refine ⟨idle, fun resources _ => ?_⟩
  refine (completeStop_obeys ?_).mono fun _ _ _ => trivial
  simp

/-! ### The pump -/

theorem copyDirection_obeys {direction : Direction} (idle : (q.role ref).closing = none)
    (runs : (q.role ref).direction = some (direction, none)) :
    (copyDirection ref direction).Obeys roles (fun q' clean =>
      (q'.role ref).direction = some (direction, some clean)) q := by
  refine ⟨runs, ?_⟩
  rintro clean -
  cases clean with
  | true => exact congrArg Role.direction (Local.withRole_role_self _ _ _)
  | false =>
    refine Program.Obeys.bind ((requestStop_obeys ?_).mono ?_)
    · simp [idle]
    · rintro _ - rfl
      exact congrArg Role.direction (Local.withRole_role_self _ _ _)

theorem pumpDirection_obeys {direction : Direction} (idle : (q.role ref).closing = none)
    (free : (q.role ref).direction = none) :
    (pumpDirection ref direction).Obeys roles (fun _ _ => True) q := by
  refine ⟨free, fun _ _ => ?_⟩
  refine Program.Obeys.bind ((copyDirection_obeys ?_ ?_).mono ?_)
  · simp [idle]
  · exact congrArg Role.direction (Local.withRole_role_self _ _ _)
  · intro q' clean copied
    exact ⟨copied, fun _ _ => trivial⟩

theorem pumpCarrier_obeys (carrier : CarrierRef) (idle : (q.role ref).closing = none)
    (owned : (q.role ref).owner = .installed carrier) :
    (pumpCarrier ref).Obeys roles (fun q' _ => ∃ owner,
      q' = q.withRole ref { q.role ref with owner } ∧ owner.carrier? = some carrier) q := by
  refine ⟨trivial, ?_⟩
  rintro (_ | current) -
  · refine (requestStop_obeys ?_).mono ?_
    · simpa using idle
    · rintro _ - rfl
      exact ⟨_, rfl, by rw [owned]; rfl⟩
  · refine ⟨⟨carrier, ?_⟩, fun _ _ => ⟨⟨carrier, ?_⟩, ?_⟩⟩
    · simpa using owned
    · simp [owned, Ownership.launch]
    · rintro ⟨cleanA, cleanB⟩ -
      refine ⟨⟨carrier, cleanA, cleanB, ?_, rfl⟩, fun _ _ =>
        ⟨.stored carrier, ?_, rfl⟩⟩
      · simp [owned, Ownership.launch, Ownership.await]
      · simp [owned, Ownership.launch, Ownership.await, Ownership.store]

theorem runServerSession_obeys (carrier : CarrierRef) (idle : (q.role ref).closing = none)
    (free : (q.role ref).working = false) (owned : (q.role ref).owner = .installed carrier) :
    (runServerSession ref).Obeys roles (fun q' _ => ∃ role,
      q' = q.withRole ref role ∧ role.owner.carrier? = some carrier ∧
        (role.stopped = true ∨ role.denied = true)) q := by
  refine ⟨free, ?_⟩
  rintro admitted -
  cases admitted with
  | false => exact ⟨_, rfl, by simp [owned, Ownership.carrier?],
      .inr rfl⟩
  | true =>
    refine Program.Obeys.bind ((pumpCarrier_obeys carrier ?_ ?_).mono ?_)
    · simpa using idle
    · simpa using owned
    · rintro _ - ⟨owner, rfl, hasCarrier⟩
      refine ⟨?_, fun _ _ => (stop_obeys ?_).mono ?_⟩
      · change Role.working _ = _
        simp
      · simp [idle]
      · rintro _ - rfl
        refine ⟨Role.stop { q.role ref with owner, working := false }, ?_, hasCarrier, .inl rfl⟩
        simp [Role.stop]

theorem sessionWork_obeys (free : (q.role ref).working = false) :
    (sessionWork ref).Obeys roles (fun _ _ => True) q := by
  refine ⟨free, ?_⟩
  rintro admitted -
  cases admitted with
  | false => trivial
  | true =>
    refine ⟨?_, fun _ _ => trivial⟩
    change Role.working _ = _
    simp

/-! ### Runtimes -/

/-- What a close of sessions or runtimes leaves: no stop is open, and what was
known before still is. -/
structure Local.Extends (q q' : Local) : Prop where
  idle : ∀ ref, (q'.role ref).closing = none
  stopped : ∀ ref, (q.role ref).stopped = true → (q'.role ref).stopped = true
  closed : ∀ ref, (q.pipe ref).closed = true → (q'.pipe ref).closed = true
  node : q'.node = q.node

theorem stopAll_obeys (sessions : List SessionRef) (idle : ∀ ref, (q.role ref).closing = none) :
    (stopAll sessions).Obeys roles (fun q' _ => q.Extends q' ∧ q'.pipe = q.pipe ∧
      ∀ ref ∈ sessions, (q'.role ref).stopped = true) q := by
  induction sessions generalizing q with
  | nil => exact ⟨⟨idle, fun _ held => held, fun _ held => held, rfl⟩, rfl,
      by simp⟩
  | cons ref rest ih =>
    refine Program.Obeys.bind ((stop_obeys (idle ref)).mono ?_)
    rintro _ - rfl
    have stays (other : SessionRef) (held : (q.role other).stopped = true) :
        ((q.withRole ref (q.role ref).stop).role other).stopped = true := by
      by_cases same : other = ref
      · subst same
        rw [Local.withRole_role_self]
        rfl
      · rw [Local.withRole_role_of_ne same]
        exact held
    have stillIdle (other : SessionRef) :
        ((q.withRole ref (q.role ref).stop).role other).closing = none := by
      by_cases same : other = ref
      · subst same
        rw [Local.withRole_role_self]
        rfl
      · rw [Local.withRole_role_of_ne same]
        exact idle other
    refine (ih stillIdle).mono ?_
    rintro q' - ⟨kept, samePipe, stopped⟩
    refine ⟨⟨kept.idle, fun other held => kept.stopped other
      (stays other held), kept.closed, kept.node⟩, samePipe, ?_⟩
    intro other member
    rcases List.mem_cons.mp member with rfl | later
    · refine kept.stopped other ?_
      rw [Local.withRole_role_self]
      rfl
    · exact stopped other later

theorem closePipeRuntime_obeys {runtime : RuntimeRef} (idle : ∀ ref, (q.role ref).closing = none) :
    (closePipeRuntime runtime).Obeys roles (fun q' _ => q.Extends q' ∧
      (q'.pipe runtime).closed = true) q := by
  have closed (pipe : PipeRole) (q' : Local) (kept : q.Extends q') :
      q.Extends (q'.withPipe runtime { pipe with closed := true }) ∧
        ((q'.withPipe runtime { pipe with closed := true }).pipe runtime).closed = true := by
    refine ⟨⟨kept.idle, kept.stopped, ?_, kept.node⟩, ?_⟩
    · intro ref held
      by_cases same : ref = runtime
      · subst same
        rw [Local.withPipe_pipe_self]
      · rw [Local.withPipe_pipe_of_ne same]
        exact kept.closed ref held
    · rw [Local.withPipe_pipe_self]
  have self : q.Extends q :=
    ⟨idle, fun _ held => held, fun _ held => held, rfl⟩
  refine ⟨trivial, ?_⟩
  rintro first -
  cases first with
  | false => exact ⟨trivial, fun _ _ => closed _ q self⟩
  | true =>
    refine ⟨⟨?_, ?_⟩, fun sessions _ => ?_⟩
    · simp
    · simp
    refine Program.Obeys.bind ((stopAll_obeys sessions ?_).mono ?_)
    · exact idle
    rintro q' - ⟨kept, samePipe, stopped⟩
    have emptied : q'.Emptied runtime := by
      refine ⟨sessions, ?_, stopped⟩
      rw [samePipe]
      simp
    refine ⟨emptied, fun _ _ => ⟨emptied, fun _ _ => closed _ q' ?_⟩⟩
    refine ⟨kept.idle, kept.stopped, ?_, kept.node⟩
    intro ref held
    refine kept.closed ref ?_
    by_cases same : ref = runtime
    · subst same
      simpa using held
    · simpa [Local.withPipe_pipe_of_ne same] using held

theorem closeAll_obeys (runtimes : List RuntimeRef) (idle : ∀ ref, (q.role ref).closing = none) :
    (closeAll runtimes).Obeys roles (fun q' _ => q.Extends q' ∧
      ∀ ref ∈ runtimes, (q'.pipe ref).closed = true) q := by
  induction runtimes generalizing q with
  | nil => exact ⟨⟨idle, fun _ held => held, fun _ held => held, rfl⟩, by simp⟩
  | cons ref rest ih =>
    refine Program.Obeys.bind ((closePipeRuntime_obeys idle).mono ?_)
    rintro middle - ⟨first, closedFirst⟩
    refine (ih first.idle).mono ?_
    rintro q' - ⟨second, closedRest⟩
    refine ⟨⟨second.idle, fun other held => second.stopped other (first.stopped other held),
      fun other held => second.closed other (first.closed other held),
      second.node.trans first.node⟩, ?_⟩
    intro other member
    rcases List.mem_cons.mp member with rfl | later
    · exact second.closed other closedFirst
    · exact closedRest other later

theorem closeNodeRuntime_obeys (idle : ∀ ref, (q.role ref).closing = none) :
    closeNodeRuntime.Obeys roles (fun q' _ => q'.node.closed = true) q := by
  refine ⟨trivial, ?_⟩
  rintro (_ | pipes) -
  · exact ⟨trivial, fun _ _ => rfl⟩
  · refine Program.Obeys.bind ((closeAll_obeys pipes ?_).mono ?_)
    · exact idle
    rintro q' - ⟨kept, closed⟩
    refine ⟨⟨pipes, ?_, closed⟩, fun _ _ => rfl⟩
    rw [kept.node]
    rfl

theorem runTimer_obeys (timer : TimerRef) (idle : ∀ ref, (q.role ref).closing = none) :
    (runTimer timer).Obeys roles (fun _ _ => True) q := by
  refine ⟨trivial, ?_⟩
  rintro (_ | ref) -
  · exact ⟨trivial, fun _ _ => trivial⟩
  · exact Program.Obeys.bind ((stop_obeys (idle ref)).mono
      fun _ _ _ => ⟨trivial, fun _ _ => trivial⟩)

end Obeys

end Tubo
