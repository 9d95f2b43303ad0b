import Tubo.ExactPath.RevokeCommand

/-!
# Revocations from several machines

Every machine has a database of its own.  A `revoke` command reads the epoch in
the database of the machine it runs on.  It writes there too, or, on a member of
the Scope, sends the epoch to the authority of that Scope, which writes it as it
comes (package `internal/runtime`: `RequestRevoke` in `client.go`, the case
`revocation.issue` in `authority.go`).

The database that is written *decides*: credentials are minted and checked
there.  It accepts an epoch equal to the stored one, so a command whose read is
out of date reports success and changes nothing.

* `revoke_bites_iff` — a write raises the deciding epoch exactly if that epoch
  has not moved past what the command read.
* `revoke_forwarded_twice` — a member that revokes twice reads its own database
  twice, and its second revocation changes nothing.
-/

namespace Tubo

open Concurrency

variable (prim : Primitives)

/-! ## The authority -/

/-- The case `revocation.issue` of `authorityHandler.process`: `membership` and
`role` are what the token of the request says. -/
def issueRevocation (membership : Bool)
    (role scope subjectType subjectJTI : GoString) (epoch : ℕ) (now : Time) : StoreProgram Unit :=
  if ¬membership then
    .done (.error (errorsNew "authorization_denied: invalid membership invite"))
  else if role ≠ str "publisher" then
    .done (.error (errorsNew "authorization_denied: role cannot revoke"))
  else
    .call (.revoke scope subjectType subjectJTI epoch now) fun
      | .error error =>
        .done (.error (.wrap (str "persistence_failed: revoke: ") error []))
      | .ok (_ : Unit) => .done (.ok ())

/-- What a forwarded revocation may do to the database of the authority: the
request is lost, or it is processed and the answer may be lost. -/
def ForwardExec (scope subjectType subjectJTI : GoString) (epoch : ℕ)
    (s : Store) (response : Except GoError Unit) (after : Store) : Prop :=
  (∃ error, response = .error error ∧ after = s) ∨ ∃ membership role now outcome,
      (issueRevocation membership role scope subjectType subjectJTI epoch
        now).run Store.execute s = (outcome, after) ∧
      (response = outcome ∨ ∃ error, response = .error error)

variable {s : Store} {machine : ℕ}

/-- The authority either leaves its database alone or revokes; it reports
success only if it revoked. -/
theorem ForwardExec.cases {scope subjectType subjectJTI : GoString} {epoch : ℕ}
    {after : Store} {response : Except GoError Unit}
    (effect : ForwardExec scope subjectType subjectJTI epoch s response after) :
    (after = s ∧ ∃ error, response = .error error) ∨
      ∃ now, s.revoke scope subjectType subjectJTI epoch now = .ok after := by
  rcases effect with ⟨error, failed, unchanged⟩ |
    ⟨membership, role, now, outcome, ran, delivered⟩
  · exact Or.inl ⟨unchanged, error, failed⟩
  · have refused : ∀ error, (outcome, after) = (.error error, s) →
        after = s ∧ ∃ error, response = .error error := by
      grind
    unfold issueRevocation at ran
    split at ran
    · exact Or.inl (refused _ ran.symm)
    · split at ran
      · exact Or.inl (refused _ ran.symm)
      · rw [Program.run_call] at ran
        simp only [Store.execute] at ran
        cases written : s.revoke scope subjectType subjectJTI epoch now with
        | error error =>
          rw [written] at ran
          exact Or.inl (refused _ ran.symm)
        | ok stored =>
          rw [written] at ran
          obtain ⟨-, rfl⟩ := Prod.mk.inj ran
          exact Or.inr ⟨now, written⟩

/-! ## Machines -/

/-- The databases of all machines. -/
abbrev Fleet := ℕ → Store

/-- A step of a command on one of the machines. -/
structure FleetCommand where
  machine : ℕ
  step : CliCommand

@[reducible]
def FleetCommand.Response (c : FleetCommand) : Type := c.step.Response

/-- What a step may do, if `authorityOf` says which machine holds the authority
of a Scope. -/
def FleetExec (authorityOf : GoString → ℕ) : (c : FleetCommand) → Fleet → c.Response → Fleet → Prop
  | ⟨machine, .store command⟩, fleet, response, after =>
    ∃ s, StoreExec command (fleet machine) response s ∧ after = Function.update fleet machine s
  | ⟨_, .requestRevoke scope subjectType subjectJTI epoch⟩, fleet, response,
      after =>
      ∃ s, ForwardExec scope subjectType subjectJTI epoch (fleet (authorityOf scope)) response s ∧
        after = Function.update fleet (authorityOf scope) s

/-- The steps without any failure, with the right to revoke. -/
def Fleet.execute (authorityOf : GoString → ℕ) (now : Time) :
    (c : FleetCommand) → Fleet → c.Response × Fleet
  | ⟨machine, .store command⟩, fleet =>
    let ran := Store.execute command (fleet machine)
    (ran.1, Function.update fleet machine ran.2)
  | ⟨_, .requestRevoke scope subjectType subjectJTI epoch⟩, fleet =>
    let ran := (issueRevocation true (str "publisher") scope subjectType
      subjectJTI epoch now).run Store.execute (fleet (authorityOf scope))
    (ran.1, Function.update fleet (authorityOf scope) ran.2)

theorem fleetExec_execute (authorityOf : GoString → ℕ) (now : Time)
    (c : FleetCommand) (fleet : Fleet) :
    FleetExec authorityOf c fleet (Fleet.execute authorityOf now c fleet).1
      (Fleet.execute authorityOf now c fleet).2 := by
  obtain ⟨machine, command | ⟨scope, subjectType, subjectJTI, epoch⟩⟩ := c
  · exact ⟨_, storeExec_execute command (fleet machine), rfl⟩
  · exact ⟨_, Or.inr ⟨true, str "publisher", now, _, rfl, Or.inl rfl⟩, rfl⟩

/-- A call on one of the machines: a `revoke` command, or the step of a minting
operation that reads the epoch it mints at (`ShareExact`, `mintLeases`, and
`pipe_publish.request`). -/
inductive FleetCall
  | revoke (machine : ℕ) (rawType id : GoString) (now : Time)
  | mint (machine : ℕ) (scope subjectType pipeID : GoString)

/-- What a successful call reports. -/
inductive FleetOutcome
  | revoked (subject : RevokeSubject)
  | minted (epoch : ℕ)

/-- The command line on one machine. -/
def onMachine {α : Type} (machine : ℕ) (program : CliProgram α) :
    Program FleetCommand FleetCommand.Response (Except GoError α) :=
  program.relabel (FleetCommand.mk machine) fun _ response => response

/-- The code of a call. -/
def FleetCall.code : FleetCall →
    Program FleetCommand FleetCommand.Response (Except GoError FleetOutcome)
  | revoke machine rawType id now =>
    (onMachine machine (Tubo.revoke prim rawType id now)).map (·.map .revoked)
  | mint machine scope subjectType pipeID =>
    .call ⟨machine, .store (.revocationEpoch scope subjectType pipeID)⟩
      fun response => .done (Except.map FleetOutcome.minted response)

abbrev FleetEvent :=
  Event FleetCall FleetCommand FleetCommand.Response (Except GoError FleetOutcome) Fleet

abbrev FleetPool :=
  Pool FleetCall FleetCommand FleetCommand.Response (Except GoError FleetOutcome) Fleet

/-- Any number of calls on any machines. -/
def fleetSystem (authorityOf : GoString → ℕ) : System FleetCall FleetCommand FleetCommand.Response
      (Except GoError FleetOutcome) Fleet where
  code := FleetCall.code prim
  exec := FleetExec authorityOf
  admits _ _ := True

/-! ## The exchanges of a call -/

/-- An exchange of the command line, on a machine. -/
def onMachineExchange (machine : ℕ) (exchange : CliExchange) :
    Exchange FleetCommand FleetCommand.Response :=
  exchange.lift (FleetCommand.mk machine) fun _ response => response

/-- What a call does, after which answers. -/
def FleetCall.Asks (call : FleetCall) (history : List (Exchange FleetCommand FleetCommand.Response))
    (c : FleetCommand) : Prop :=
  match call with
  | .revoke machine rawType _ _ => c.machine = machine ∧
      ∃ asked, history = asked.map (onMachineExchange machine) ∧ RevokeAsks rawType asked c.step
  | .mint machine scope subjectType pipeID =>
    c = ⟨machine, .store (.revocationEpoch scope subjectType pipeID)⟩

/-- What the exchanges of a call say about its success. -/
def FleetCall.Owes (call : FleetCall) (history : List (Exchange FleetCommand FleetCommand.Response))
    (outcome : FleetOutcome) : Prop :=
  match call, outcome with
  | .revoke machine _ _ _, .revoked subject =>
    ∃ asked, history = asked.map (onMachineExchange machine) ∧ RevokeOwes asked subject
  | .mint .., .minted _ => True
  | _, _ => False

theorem FleetCall.code_conduct (call : FleetCall) :
    (call.code prim).Always call.Asks (Program.OnSuccess call.Owes) [] := by
  cases call with
  | revoke machine rawType id now =>
    refine Program.Always.map (Program.Always.relabel (FleetCommand.mk machine)
      (fun _ response => response) (fun _ _ => rfl) []
      (revoke_conduct prim rawType id now) rfl ?_ ?_)
    · exact fun asked _ asks => ⟨rfl, asked, rfl, asks⟩
    · exact fun asked _ owes => owes.map fun _ holds => ⟨asked, rfl, holds⟩
  | mint machine scope subjectType pipeID =>
    refine ⟨rfl, ?_⟩
    rintro (error | epoch)
    · exact Program.Always.failed _ _
    · rintro outcome ⟨⟩
      trivial

/-! ## Every database grows -/

/-- No machine forgets. -/
def Fleet.Grows (fleet after : Fleet) : Prop :=
  ∀ machine, (fleet machine).Grows (after machine)

theorem Fleet.Grows.refl (fleet : Fleet) : fleet.Grows fleet :=
  fun machine => Store.Grows.refl (fleet machine)

variable {after fleet : Fleet}

theorem Fleet.Grows.trans {middle : Fleet}
    (first : fleet.Grows middle) (second : middle.Grows after) : fleet.Grows after :=
  fun machine => (first machine).trans (second machine)

/-- One database of the fleet grew. -/
theorem Fleet.Grows.update
    (grows : (fleet machine).Grows s) : fleet.Grows (Function.update fleet machine s) := by
  intro other
  grind [Store.Grows.refl]

theorem FleetExec.grows {authorityOf : GoString → ℕ} {c : FleetCommand} {response : c.Response}
    (effect : FleetExec authorityOf c fleet response after) : fleet.Grows after := by
  obtain ⟨machine, command | ⟨scope, subjectType, subjectJTI, epoch⟩⟩ := c
  · obtain ⟨s, ran, rfl⟩ := effect
    exact Fleet.Grows.update (StoreExec.grows ran)
  · obtain ⟨s, ran, rfl⟩ := effect
    grind [Fleet.Grows.update, ForwardExec.cases, Store.Grows.refl, Store.revoke_grows]

/-- The epochs of every database of the fleet fit their column. -/
def Fleet.EpochsFit (fleet : Fleet) : Prop :=
  ∀ machine, (fleet machine).EpochsFit

theorem Fleet.EpochsFit.update (fits : fleet.EpochsFit) (written : s.EpochsFit) :
    Fleet.EpochsFit (Function.update fleet machine s) := by
  intro other
  by_cases same : other = machine
  · grind
  · rw [Function.update_of_ne same]
    exact fits other

theorem FleetExec.epochsFit {authorityOf : GoString → ℕ} {c : FleetCommand} {response : c.Response}
    (effect : FleetExec authorityOf c fleet response after)
    (fits : fleet.EpochsFit) : after.EpochsFit := by
  obtain ⟨machine, command | ⟨scope, subjectType, subjectJTI, epoch⟩⟩ := c
  · obtain ⟨s, ran, rfl⟩ := effect
    exact fits.update (StoreExec.epochsFit ran (fits machine))
  · obtain ⟨s, ran, rfl⟩ := effect
    refine fits.update ?_
    rcases ran.cases with ⟨rfl, -⟩ | ⟨now, revoked⟩
    · exact fits _
    · exact (fits _).revoke revoked

/-! ## The write of a command -/

/-- The successful write of a `revoke` command on a machine, and the machine
whose database decides: its own, or the one of the authority. -/
inductive RevokeWrite (authorityOf : GoString → ℕ) (machine : ℕ)
    (subject : RevokeSubject) (epoch : ℕ) : (event : FleetEvent) → ℕ → Prop
  | direct {event : FleetEvent} {now : Time}
      (isRan : event.action = .ran ⟨machine, .store (.revoke subject.scope subject.typeName
          subject.id epoch now)⟩ (.ok ())) :
      RevokeWrite authorityOf machine subject epoch event machine
  | forwarded {event : FleetEvent}
      (isRan : event.action = .ran ⟨machine, .requestRevoke subject.scope subject.typeName
          subject.id epoch⟩ (.ok ())) :
      RevokeWrite authorityOf machine subject epoch event (authorityOf subject.scope)

/-- A machine reads the epoch of a row. -/
def ReadsEpoch (event : FleetEvent) (machine : ℕ) (subject : RevokeSubject) (epoch : ℕ) : Prop :=
  event.action = .ran ⟨machine, .store (.revocationEpoch subject.scope subject.typeName
      subject.id)⟩ (.ok epoch)

/-- The exchanges of a command are events on its machine. -/
theorem event_of_exchange {thread : ℕ} {events : List FleetEvent}
    {asked : List CliExchange} {step : CliCommand} {response : step.Response}
    (exchanges : exchangesOf thread events = asked.map (onMachineExchange machine))
    (member : (⟨step, response⟩ : CliExchange) ∈ asked) :
    ∃ event ∈ events, event.thread = thread ∧ event.action = .ran ⟨machine, step⟩ response := by
  have lifted := List.mem_map_of_mem (f := onMachineExchange machine) member
  rw [← exchanges] at lifted
  exact mem_exchangesOf.mp lifted

section Runs

variable {authorityOf : GoString → ℕ} {start : Fleet} {pool : FleetPool}
  (reachable : (fleetSystem prim authorityOf).Reachable start pool)
include reachable

variable {event : FleetEvent} {machine epoch : ℕ} {subject : RevokeSubject}

/-- A write is a `Revoke` on the deciding database. -/
theorem RevokeWrite.revoked {deciding : ℕ} (member : event ∈ pool.history)
    (write : RevokeWrite authorityOf machine subject epoch event deciding) :
    ∃ now, (event.before deciding).revoke subject.scope subject.typeName
      subject.id epoch now = .ok (event.after deciding) := by
  cases write with
  | direct isRan =>
    obtain ⟨s, ran, changed⟩ := reachable.exec_of_mem member isRan
    rw [changed, Function.update_self]
    exact ⟨_, StoreExec.revoke_ok ran⟩
  | forwarded isRan =>
    obtain ⟨s, ran, changed⟩ := reachable.exec_of_mem member isRan
    rw [changed, Function.update_self]
    grind [ForwardExec.cases]

/-- A read returns what the database of the machine stores. -/
theorem ReadsEpoch.value (member : event ∈ pool.history)
    (reads : ReadsEpoch event machine subject epoch) :
    (event.before machine).revocationEpoch subject.scope subject.typeName subject.id = epoch ∧
      event.after = event.before := by
  obtain ⟨s, ran, changed⟩ := reachable.exec_of_mem member reads
  grind [StoreExec.revocationEpoch_ok, Function.update_eq_self]

/-- Before it writes, a command has read an epoch on its own machine, and it
writes one above that. -/
theorem RevokeWrite.read {w : ℕ} {rawType id : GoString} {now : Time}
    {deciding : ℕ} (atWrite : pool.history[w]? = some event)
    (runs : pool.toWorld.Runs event.thread (.revoke machine rawType id now))
    (isEpoch : isEpochSubject rawType)
    (write : RevokeWrite authorityOf machine subject epoch event deciding) :
    subject.typeName = rawType ∧ ∃ i read seen, i < w ∧ pool.history[i]? = some read ∧
        read.thread = event.thread ∧ ReadsEpoch read machine subject seen ∧
        epoch = (seen + 1) % uint64Size := by
  have notInvite : rawType ≠ str "invite" := by
    rintro rfl
    rcases isEpoch with same | same
    · exact absurd same (by decide)
    · exact absurd same (by decide)
  obtain ⟨asked, exchanges, epochRead⟩ : ∃ asked, exchangesOf event.thread (pool.history.take w) =
        asked.map (onMachineExchange machine) ∧
      EpochRead rawType asked subject.scope subject.typeName subject.id
        epoch := by
    cases write with
    | direct isRan =>
      obtain ⟨call, runsCall, asks⟩ := reachable.permitted
        (FleetCall.code_conduct prim) atWrite isRan
      obtain rfl := reachable.runs_unique runsCall runs
      obtain ⟨-, asked, exchanges, epochRead⟩ := asks
      exact ⟨asked, exchanges, epochRead⟩
    | forwarded isRan =>
      obtain ⟨call, runsCall, asks⟩ := reachable.permitted
        (FleetCall.code_conduct prim) atWrite isRan
      obtain rfl := reachable.runs_unique runsCall runs
      obtain ⟨-, asked, exchanges, epochRead⟩ := asks
      exact ⟨asked, exchanges, epochRead⟩
  have sameType := epochRead.sameType notInvite
  refine ⟨sameType, ?_⟩
  obtain ⟨seen, next, member⟩ := epochRead.read (sameType ▸ isEpoch)
  obtain ⟨read, readMember, sameThread, isRead⟩ :=
    event_of_exchange exchanges member
  obtain ⟨i, below, atRead⟩ := mem_take_iff.mp readMember
  exact ⟨i, read, seen, below, atRead, sameThread, isRead, next⟩

end Runs

/-- **A revocation bites exactly if its read is up to date.**  Take any
interleaving of `revoke` commands and minting operations on any machines, from
databases whose epochs fit their columns.

* The write of every `revoke pipe-access` or `revoke pipe-publish` command comes
  after a read of the same row on the machine of the command, and it raises the
  epoch in the deciding database exactly if the epoch there is at most what was
  read.  If it does, every epoch that was read there before the write, and so
  every credential minted at one, is stale afterwards.
* A command reports success only after such a write. -/
theorem revoke_bites_iff {authorityOf : GoString → ℕ} {start : Fleet} {pool : FleetPool}
    (reachable : (fleetSystem prim authorityOf).Reachable start pool) (fits : start.EpochsFit) :
    (∀ (w : ℕ) (event : FleetEvent) (machine : ℕ) (rawType id : GoString)
        (now : Time) (subject : RevokeSubject) (epoch deciding : ℕ),
      pool.history[w]? = some event →
      pool.toWorld.Runs event.thread (.revoke machine rawType id now) →
      isEpochSubject rawType →
      RevokeWrite authorityOf machine subject epoch event deciding →
      subject.typeName = rawType ∧
      ∃ i read seen, i < w ∧ pool.history[i]? = some read ∧
        read.thread = event.thread ∧ ReadsEpoch read machine subject seen ∧
        ((event.before deciding).revocationEpoch subject.scope rawType subject.id <
          (event.after deciding).revocationEpoch subject.scope rawType subject.id ↔
          (event.before deciding).revocationEpoch subject.scope rawType subject.id ≤ seen) ∧
        ((event.before deciding).revocationEpoch subject.scope rawType subject.id <
          (event.after deciding).revocationEpoch subject.scope rawType subject.id →
          ∀ (j : ℕ) (earlier : FleetEvent) (minted : ℕ), j < w → pool.history[j]? = some earlier →
            ReadsEpoch earlier deciding subject minted →
            minted < (event.after deciding).revocationEpoch subject.scope rawType subject.id)) ∧
    (∀ event ∈ pool.history, ∀ subject, event.action = .returned (.ok (.revoked subject)) →
      ∃ machine rawType id now, pool.toWorld.Runs event.thread (.revoke machine rawType id now) ∧
        ∃ write ∈ pool.history, write.thread = event.thread ∧ ∃ epoch deciding,
            RevokeWrite authorityOf machine subject epoch write deciding) := by
  have ordered := reachable.ordered Fleet.Grows.refl Fleet.Grows.trans
    fun _ _ _ _ effect => FleetExec.grows effect
  refine ⟨?_, ?_⟩
  · intro w event machine rawType id now subject epoch deciding atWrite runs isEpoch write
    have member := List.mem_of_getElem? atWrite
    obtain ⟨rfl, i, read, seen, below, atRead, sameThread, reads, next⟩ :=
      write.read prim reachable atWrite runs isEpoch
    refine ⟨rfl, i, read, seen, below, atRead, sameThread, reads, ?_, ?_⟩
    · obtain ⟨at', revoked⟩ := write.revoked prim reachable member
      rw [Store.revoke_revocationEpoch_self revoked]
      -- The epoch that was read fits its column, so adding one does not wrap.
      have seenFits : seen < int64Size := by
        have readMember := List.mem_of_getElem? atRead
        obtain ⟨earlier, reached, sameState, -⟩ :=
          reachable.before_event readMember
        have earlierFits : earlier.state.EpochsFit :=
          reached.invariant fits fun _ _ _ _ effect holds => FleetExec.epochsFit effect holds
        rw [← (reads.value prim reachable readMember).1, ← sameState]
        exact earlierFits machine _ _ _
      unfold int64Size at seenFits
      unfold uint64Size at next
      omega
    · intro raised j earlier minted before atEarlier readsEarlier
      obtain ⟨value, unchanged⟩ :=
        readsEarlier.value prim reachable (List.mem_of_getElem? atEarlier)
      have grown := (ordered.at_index atEarlier atWrite before
        deciding).revocationEpoch_le subject.scope subject.typeName subject.id
      rw [unchanged, value] at grown
      exact Nat.lt_of_le_of_lt grown raised
  · intro event member subject isReturn
    obtain ⟨call, runs, owes⟩ := reachable.returned_post
      (FleetCall.code_conduct prim) member isReturn
    replace owes := owes _ rfl
    cases call with
    | mint machine scope subjectType pipeID => exact owes.elim
    | revoke machine rawType id now =>
      obtain ⟨asked, exchanges, epoch, wrote⟩ := owes
      refine ⟨machine, rawType, id, now, runs, ?_⟩
      rcases wrote with ⟨at', wrote⟩ | wrote
      · obtain ⟨write, writeMember, sameThread, isRan⟩ :=
          event_of_exchange exchanges wrote
        exact ⟨write, writeMember, sameThread, epoch, machine, .direct isRan⟩
      · obtain ⟨write, writeMember, sameThread, isRan⟩ :=
          event_of_exchange exchanges wrote
        exact ⟨write, writeMember, sameThread, epoch, authorityOf subject.scope, .forwarded isRan⟩

/-! ### A member revokes twice -/

/-- Machine 0 holds the authority of the Scope, machine 1 is a publisher. -/
def memberFleet : Fleet
  | 0 => scopedStore
  | _ =>
    { pipes := scopedStore.pipes,
      memberships := (∅ : Table GoString Membership).insert
        (str "home/default") ⟨str "publisher", [], [], [], []⟩,
      currentScope := str "home/default" }

def scopedPipe : RevokeSubject :=
  ⟨pipeAccess, str "home/default", plainPipeID⟩

/-- The member revokes access to the Pipe, the authority mints at the new epoch,
and the member revokes again; nothing overlaps. -/
def forwardedPool : FleetPool :=
  play (fleetSystem plain fun _ => 0) (Fleet.execute (fun _ => 0) dawn)
    [.spawn (.revoke 1 pipeAccess (str "pipe/web") dawn),
      .move 0, .move 0, .move 0, .move 0, .move 0,
      .spawn (.mint 0 (str "home/default") pipeAccess plainPipeID),
      .move 1, .move 1,
      .spawn (.revoke 1 pipeAccess (str "pipe/web") dawn),
      .move 2, .move 2, .move 2, .move 2, .move 2]
    (Pool.start memberFleet)

theorem forwardedPool_reachable :
    (fleetSystem plain fun _ => 0).Reachable memberFleet forwardedPool :=
  play_reachable (fleetExec_execute _ _) (System.Reachable.start _)
    ⟨trivial, trivial, trivial, trivial⟩

theorem memberFleet_epochsFit : memberFleet.EpochsFit := by
  rintro (_ | machine) scope subjectType subjectJTI
  · exact Nat.two_pow_pos 63
  · exact Nat.two_pow_pos 63

/-- Both commands report success, the second write leaves the epoch of the
authority at 1, and what was minted at 1 in between stays good. -/
theorem revoke_forwarded_twice :
    (fleetSystem plain fun _ => 0).Reachable memberFleet forwardedPool ∧ memberFleet.EpochsFit ∧
      (∃ event, forwardedPool.history[8]? = some event ∧
        event.action = .returned (.ok (.minted 1))) ∧
      (∃ event, forwardedPool.history[14]? = some event ∧ event.thread = 2 ∧
        event.action = .returned (.ok (.revoked scopedPipe))) ∧
      ∃ event, forwardedPool.history[13]? = some event ∧ event.thread = 2 ∧
        RevokeWrite (fun _ => 0) 1 scopedPipe 1 event 0 ∧
        (event.before 0).revocationEpoch (str "home/default") pipeAccess plainPipeID = 1 ∧
        (event.after 0).revocationEpoch (str "home/default") pipeAccess plainPipeID = 1 :=
  ⟨forwardedPool_reachable, memberFleet_epochsFit, ⟨_, rfl, rfl⟩,
    ⟨_, rfl, rfl, rfl⟩, _, rfl, rfl, .forwarded rfl, rfl, rfl⟩

/-- The first of the two writes bites. -/
theorem revoke_bites_iff_forwarded : ∃ event, forwardedPool.history[4]? = some event ∧
      RevokeWrite (fun _ => 0) 1 scopedPipe 1 event 0 ∧
      (event.before 0).revocationEpoch (str "home/default") pipeAccess plainPipeID <
        (event.after 0).revocationEpoch (str "home/default") pipeAccess
          plainPipeID := by
  have wrote : ∃ event, forwardedPool.history[4]? = some event ∧
      RevokeWrite (fun _ => 0) 1 scopedPipe 1 event 0 ∧
      event.thread = 0 ∧
      (event.before 0).revocationEpoch (str "home/default") pipeAccess plainPipeID = 0 :=
    ⟨_, rfl, .forwarded rfl, rfl, rfl⟩
  obtain ⟨event, atWrite, write, isThread, fresh⟩ := wrote
  refine ⟨event, atWrite, write, ?_⟩
  obtain ⟨-, -, -, seen, -, -, -, -, bites, -⟩ :=
    (revoke_bites_iff plain forwardedPool_reachable memberFleet_epochsFit).1 4
      event 1 pipeAccess (str "pipe/web") dawn scopedPipe 1 0 atWrite
      ⟨_, List.mem_of_getElem? (i := 0) rfl, isThread.symm, rfl⟩ (Or.inl rfl)
      write
  refine bites.mpr ?_
  change (event.before 0).revocationEpoch (str "home/default") pipeAccess plainPipeID ≤ seen
  rw [fresh]
  exact Nat.zero_le seen

end Tubo
