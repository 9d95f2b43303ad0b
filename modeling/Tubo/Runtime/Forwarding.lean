import Tubo.Runtime.Boundary

/-!
# Forwarding from Pipe to Pipe

An open travels from Pipe to Pipe: `serve` of one Pipe checks the request, asks
the engine for the next Pipe, and opens it with `openRemotePipeCarrier`, which
sends the traversal state in the request that the next `serve` reads.

`PipeGraph.answer` lets `serve` run in a Pipe graph and notes what it opens.
Everything before the resolution of the target opens nothing, so a hop opens what
its target resolves to, if the request is accepted and authorized
(`serveOpens_eq`): a service (`targetOpens_service`), or the next Pipe, if it is
new and the hop limit allows it (`targetOpens_pipe`).

The limit that the engine checks is the remaining budget of the traversal.  It agrees
with the limit of the next hop, except for a traversal that `NewTraversal` started, which
has one hop too many (`forward_acceptable_iff`).
-/

namespace Tubo

open Concurrency

variable (prim : Primitives)

/-! ## One hop -/

/-- What a hop opens: a service, or the next Pipe with a traversal state. -/
inductive Opened
  | service (service : ServiceSpec)
  | pipe (next : PipeSpec) (state : TraversalState)
  deriving DecidableEq

/-- The answers in a Pipe graph.  `rest` answers everything else; what is opened
is noted. -/
def PipeGraph.answer (graph : PipeGraph) (rest : (c : ServeCommand) → c.Response) :
    (c : ServeCommand) → List Opened → c.Response × List Opened
  | .engine (.resolveService target), opened =>
    (graph.loadService target, opened)
  | .engine (.resolvePipe target), opened => (graph.loadPipe target, opened)
  | .engine (.validateService service), opened =>
    (graph.validateService service, opened)
  | .engine (.dialService service), opened =>
    (.ok (), opened ++ [.service service])
  | .engine (.openDownstream next state), opened =>
    (.ok (), opened ++ [.pipe next state])
  | .dial service, opened => (.ok (), opened ++ [.service service])
  | c, opened => (rest c, opened)

/-- What `serve` opens on one stream. -/
def PipeGraph.serveOpens (graph : PipeGraph) (server : TunnelServer)
    (rest : (c : ServeCommand) → c.Response) : List Opened :=
  ((serve prim server).run (graph.answer rest) []).2

/-- The hop limit that `openRemotePipeCarrier` sends. -/
def TraversalState.hopLimit (state : TraversalState) : ℤ :=
  if state.maxHops ≤ 0 then defaultMaxPipeHops else state.maxHops

/-- The request of `openRemotePipeCarrier`. -/
def TraversalState.openPipe (state : TraversalState)
    (pipeID challengeProof accessLease : GoString) : OpenPipe :=
  ⟨pipeID, challengeProof, accessLease, state.visitedIDs, state.hopLimit⟩

/-! ## Commands that open nothing -/

/-- Commands that are left to the rest of the environment. -/
def ServeCommand.quiet : ServeCommand → Bool
  | .engine _ | .dial _ => false
  | _ => true

section Quiet

variable (graph : PipeGraph) (rest : (c : ServeCommand) → c.Response)

theorem answer_of_quiet {c : ServeCommand} (isQuiet : c.quiet = true)
    (opened : List Opened) : graph.answer rest c opened = (rest c, opened) := by
  cases c with
  | engine command => cases isQuiet
  | dial service => cases isQuiet
  | _ => rfl

theorem run_of_quiet {α : Type} {program : Program ServeCommand ServeCommand.Response α}
    (only : program.Only (·.quiet = true)) (opened : List Opened) :
    (program.run (graph.answer rest) opened).2 = opened := by
  induction program generalizing opened with
  | done value => rfl
  | call command next ih =>
    rw [Program.run_call, answer_of_quiet graph rest only.1]
    exact ih _ (only.2 _) opened

theorem only_relabel {α C : Type} {R : C → Type} {into : C → ServeCommand}
    {back : (c : C) → (into c).Response → R c} (program : Program C R α)
    (isQuiet : ∀ c, (into c).quiet = true) : (program.relabel into back).Only (·.quiet = true) := by
  induction program with
  | done value => trivial
  | call command next ih =>
    exact ⟨isQuiet command, fun response => ih _⟩

theorem openError_quiet {α : Type} (code message : String) :
    (openError code message : ServeProgram α).Only (·.quiet = true) :=
  ⟨rfl, fun _ => trivial⟩

theorem handshake_quiet (server : TunnelServer) : (handshake server).Only (·.quiet = true) := by
  refine ⟨rfl, ?_⟩
  rintro (error | hello)
  · trivial
  dsimp only
  split
  · trivial
  refine ⟨rfl, fun nonce => ⟨rfl, ?_⟩⟩
  rintro (error | ⟨⟩)
  · trivial
  refine ⟨rfl, ?_⟩
  rintro (error | request) <;> trivial

theorem authorizeOpenOnly_quiet (server : TunnelServer)
    (clientPublic challenge : GoString) (request : OpenPipe) (now : Time) :
    (authorizeOpenOnly prim server clientPublic challenge request now).Only (·.quiet = true) := by
  unfold authorizeOpenOnly
  split
  · trivial
  refine Program.Only.bind (Program.Only.bind ?_ ?_) ?_
  · refine ⟨rfl, ?_⟩
    rintro (_ | cached)
    · dsimp only
      split
      · trivial
      · refine ⟨rfl, ?_⟩
        rintro (error | secret) <;> trivial
    · trivial
  · rintro (_ | loaded)
    · trivial
    · exact only_relabel _ fun _ => rfl
  · rintro (error | auth)
    · trivial
    · dsimp only
      split <;> trivial

theorem deferred_quiet (owned : Bool) (result : Except GoError Unit) :
    (deferred owned result).Only (·.quiet = true) := by
  refine ⟨rfl, fun _ => ?_⟩
  split
  · trivial
  · exact ⟨rfl, fun _ => trivial⟩

theorem serveSession_quiet (server : TunnelServer) (auth : Authorization) :
    (serveSession server auth).Only (·.quiet = true) := by
  refine ⟨rfl, fun _ => ⟨rfl, fun random => ?_⟩⟩
  dsimp only
  split
  · exact deferred_quiet _ _
  refine ⟨rfl, fun allowed => ?_⟩
  dsimp only
  split
  · refine ⟨rfl, ?_⟩
    rintro (error | ⟨⟩)
    · exact deferred_quiet _ _
    refine ⟨rfl, fun _ => ⟨rfl, ?_⟩⟩
    rintro (error | ⟨⟩)
    · exact deferred_quiet _ _
    refine ⟨rfl, fun installed => ?_⟩
    dsimp only
    split
    · exact deferred_quiet _ _
    · exact ⟨rfl, fun _ => ⟨rfl, fun _ => ⟨rfl, fun _ => deferred_quiet _ _⟩⟩⟩
  · exact Program.Only.bind (openError_quiet _ _) fun _ => deferred_quiet _ _

end Quiet

/-! ## What `serve` opens -/

/-- What the resolution of the target opens. -/
def PipeGraph.targetOpens (graph : PipeGraph)
    (rest : (c : ServeCommand) → c.Response) (server : TunnelServer)
    (request : OpenPipe) : List Opened :=
  ((resolveTarget server request).run (graph.answer rest) []).2

section Opens

variable {prim} {graph : PipeGraph} {rest : (c : ServeCommand) → c.Response}
  {server : TunnelServer}

/-- The handshake reads the request of the client. -/
theorem handshake_run {hello : ClientHello} {challenge : GoString}
    {request : OpenPipe} {opened : List Opened}
    (done : ((handshake server).run (graph.answer rest) opened).1 =
      .ok (hello, challenge, request)) : rest .readOpen = .ok request := by
  unfold handshake at done
  rw [Program.run_call] at done
  split at done
  · cases done
  split at done
  · cases done
  simp only [Program.run_call, PipeGraph.answer] at done
  split at done
  · cases done
  simp only [Program.run_call, PipeGraph.answer] at done
  split at done
  · cases done
  · rename_i received
    rw [received]
    cases done
    rfl

/-- The stream delivers a request that the authorizer accepts. -/
structure Authorizes (prim : Primitives) (graph : PipeGraph)
    (server : TunnelServer) (rest : (c : ServeCommand) → c.Response)
    (request : OpenPipe) (hello : ClientHello) (challenge : GoString)
    (auth : Authorization) : Prop where
  delivered : ((handshake server).run (graph.answer rest) []).1 = .ok (hello, challenge, request)
  authorized : ((authorizeOpenOnly prim server hello.clientPublic challenge
    request (Time.utc (rest .now))).run (graph.answer rest) []).1 = .ok auth

/-- What `serve` opens is what it opens for its target, if the request is accepted
and authorized. -/
theorem serveOpens_eq : graph.serveOpens prim server rest =
    match ((handshake server).run (graph.answer rest) []).1 with
    | .error _ => []
    | .ok (hello, challenge, request) =>
      match refuseOpen server request with
      | some _ => []
      | none =>
        match ((authorizeOpenOnly prim server hello.clientPublic challenge
          request (Time.utc (rest .now))).run (graph.answer rest) []).1 with
        | .error _ => []
        | .ok _ => graph.targetOpens rest server request := by
  have quiet := run_of_quiet graph rest (handshake_quiet server) []
  unfold PipeGraph.serveOpens serve Program.andThen
  rw [Program.run_bind, quiet]
  cases ((handshake server).run (graph.answer rest) []).1 with
  | error error => rfl
  | ok read =>
    obtain ⟨hello, challenge, request⟩ := read
    dsimp only
    cases refuseOpen server request with
    | some refusal => exact run_of_quiet graph rest (openError_quiet _ _) []
    | none =>
      rw [Program.run_call, answer_of_quiet graph rest rfl]
      have quiet := run_of_quiet graph rest (authorizeOpenOnly_quiet prim server
        hello.clientPublic challenge request (Time.utc (rest .now)))
      refine (congrArg Prod.snd (Program.run_bind (graph.answer rest)
        _ _ [])).trans ?_
      rw [quiet]
      generalize ((authorizeOpenOnly prim server hello.clientPublic challenge
        request (Time.utc (rest .now))).run (graph.answer rest) []).1 = decision
      cases decision with
      | error error => exact run_of_quiet graph rest (openError_quiet _ _) []
      | ok auth =>
        refine (congrArg Prod.snd (Program.run_bind (graph.answer rest)
          _ _ [])).trans ?_
        split
        · exact run_of_quiet graph rest (openError_quiet _ _) _
        · exact run_of_quiet graph rest (serveSession_quiet server auth) _

/-- The traversal state with which an accepted request is forwarded. -/
def forwardState (server : TunnelServer) (request : OpenPipe) : TraversalState :=
  ⟨request.visitedPipeIDs ++ [server.spec.pipeID],
    request.hopLimit - request.visitedPipeIDs.length - 1, request.hopLimit⟩

/-- `FromWire` and `Advance` succeed on an accepted request. -/
theorem AdmittedPath.advance {request : OpenPipe} (admitted : AdmittedPath server request) :
    (fromWire request.visitedPipeIDs request.hopLimit >>= fun state =>
      state.advance server.spec.pipeID) = .ok (forwardState server request) := by
  have short := admitted.short
  have limit := admitted.limit
  have noLoop : repeated (fun _ => false) [] request.visitedPipeIDs = false :=
    repeated_eq_false.mpr ⟨admitted.nodup, by simp⟩
  simp only [bind_eq_ok]
  refine ⟨⟨request.visitedPipeIDs, request.hopLimit -
    request.visitedPipeIDs.length, request.hopLimit⟩, ?_, ?_⟩
  · simp only [fromWire, bind_eq_ok, failIf_eq_ok, noLoop]
    exact ⟨(), by unfold defaultMaxPipeHops; omega, (), by simp, (), by omega,
      rfl⟩
  · simp only [TraversalState.advance, bind_eq_ok, failIf_eq_ok]
    exact ⟨(), by omega, (), admitted.fresh, rfl⟩

/-- A service target is opened. -/
theorem targetOpens_service {request : OpenPipe} (isService : server.spec.target.kind ≠ .pipe) :
    graph.targetOpens rest server request = [.service server.service] := by
  unfold PipeGraph.targetOpens resolveTarget
  rw [if_neg isService]
  rfl

/-- A Pipe target is opened if it is there, valid and new, and if the hop limit
allows one more hop. -/
theorem targetOpens_pipe {request : OpenPipe} (admitted : AdmittedPath server request)
    (isPipe : server.spec.target.kind = .pipe) :
    graph.targetOpens rest server request =
      match graph.loadPipe server.spec.target with
      | .error _ => []
      | .ok next =>
        match next.validate with
        | .error _ => []
        | .ok () =>
          if next.pipeID ∉ (forwardState server request).visitedIDs ∧
              1 ≤ (forwardState server request).remaining ∧
              server.hasOpener = true then
            [.pipe next (forwardState server request)]
          else [] := by
  have advanced := admitted.advance
  rw [bind_eq_ok] at advanced
  obtain ⟨state, fromWire, advanced⟩ := advanced
  unfold PipeGraph.targetOpens resolveTarget forward
  rw [if_pos isPipe, isPipe]
  simp only [fromWire, advanced]
  refine (congrArg Prod.snd (Program.run_bind (graph.answer rest)
    _ _ [])).trans ?_
  unfold forwardPipeTarget
  rw [Program.relabel_call, Program.run_call]
  dsimp only [PipeGraph.answer]
  cases graph.loadPipe server.spec.target with
  | error error => rfl
  | ok next =>
    dsimp only
    cases next.validate with
    | error error => rfl
    | ok valid =>
      by_cases loop : next.pipeID ∈ (forwardState server request).visitedIDs
      · rw [if_pos loop, if_neg (fun fine => fine.1 loop)]
        rfl
      by_cases exhausted : (forwardState server request).remaining < 1
      · rw [if_neg loop, if_pos exhausted, if_neg (fun fine => absurd fine.2.1 (by omega))]
        rfl
      cases hasOpener : server.hasOpener with
      | false =>
        rw [if_neg loop, if_neg exhausted, if_pos (by simp),
          if_neg (fun fine => absurd fine.2.2 (by simp))]
        rfl
      | true =>
        rw [if_neg loop, if_neg exhausted, if_neg (by simp), if_pos ⟨loop, by omega, rfl⟩]
        rfl

end Opens

/-! ## The budget of hops -/

/-- Where a traversal starts: at a Pipe, or with the fields of a request. -/
inductive TraversalOrigin
  | new (pipeID : GoString)
  | wire (visited : List GoString) (hopLimit : ℤ)
  deriving DecidableEq, Repr

/-- The first state of a traversal. -/
def TraversalOrigin.start : TraversalOrigin → Except GoError TraversalState
  | .new pipeID => .ok (newTraversal pipeID)
  | .wire visited hopLimit => fromWire visited hopLimit

/-- `Advance`, Pipe after Pipe. -/
def TraversalState.advanceAll (state : TraversalState) :
    List GoString → Except GoError TraversalState
  | [] => .ok state
  | pipeID :: rest => do (← state.advance pipeID).advanceAll rest

/-- The state that a traversal has reached. -/
def TraversalOrigin.reach (origin : TraversalOrigin) (hops : List GoString) :
    Except GoError TraversalState := do
  (← origin.start).advanceAll hops

/-- The states after the given advances, with the budget that is left. -/
structure TraversalOrigin.Budget (origin : TraversalOrigin) (hops : ℕ)
    (state : TraversalState) : Prop where
  limit : 0 < state.maxHops ∧ state.maxHops ≤ defaultMaxPipeHops
  nodup : state.visitedIDs.Nodup
  remaining : 0 ≤ state.remaining
  -- A new traversal has visited one Pipe that its budget does not count.
  wire : ∀ visited hopLimit, origin = .wire visited hopLimit →
    state.visitedIDs.length + state.remaining = state.maxHops
  new : ∀ pipeID, origin = .new pipeID →
    state.maxHops = defaultMaxPipeHops ∧ state.visitedIDs.length = hops + 1 ∧
      state.visitedIDs.length + state.remaining = state.maxHops + 1

namespace TraversalOrigin

variable {origin : TraversalOrigin} {state : TraversalState}

theorem start_budget (started : origin.start = .ok state) : origin.Budget 0 state := by
  cases origin with
  | new pipeID =>
    obtain rfl := Except.ok.inj started
    refine ⟨⟨Int.sign_eq_one_iff_pos.mp rfl, le_refl defaultMaxPipeHops⟩,
      List.nodup_singleton pipeID, Int.natCast_nonneg 8, by rintro _ _ ⟨⟩, ?_⟩
    rintro _ -
    exact ⟨rfl, rfl, by simp [newTraversal, add_comm]⟩
  | wire visited hopLimit =>
    simp only [start, fromWire, bind_eq_ok, failIf_eq_ok, not_or] at started
    obtain ⟨-, limit, -, loopFree, -, short, same⟩ := started
    obtain rfl := Except.ok.inj same
    rw [Bool.not_eq_true, repeated_eq_false] at loopFree
    refine ⟨⟨Int.not_le.mp limit.1, Int.not_lt.mp limit.2⟩, loopFree.1,
      by dsimp only; omega, ?_, by rintro _ ⟨⟩⟩
    rintro _ _ -
    dsimp only
    omega

theorem Budget.advance {hops : ℕ} (budget : origin.Budget hops state) {pipeID : GoString}
    {next : TraversalState} (advanced : state.advance pipeID = .ok next) :
    origin.Budget (hops + 1) next := by
  simp only [TraversalState.advance, bind_eq_ok, failIf_eq_ok] at advanced
  obtain ⟨-, left, -, fresh, same⟩ := advanced
  obtain rfl := Except.ok.inj same
  refine ⟨budget.limit, ?_, by dsimp only; omega, ?_, ?_⟩
  · exact budget.nodup.append (List.nodup_singleton pipeID) (List.disjoint_singleton.mpr fresh)
  · grind [Budget.wire]
  · grind [Budget.new]

theorem Budget.advanceAll {hops : ℕ} (budget : origin.Budget hops state)
    {more : List GoString} {last : TraversalState} (advanced : state.advanceAll more = .ok last) :
    origin.Budget (hops + more.length) last := by
  induction more generalizing hops state with
  | nil =>
    obtain rfl := Except.ok.inj advanced
    exact budget
  | cons pipeID more ih =>
    simp only [TraversalState.advanceAll, bind_eq_ok] at advanced
    obtain ⟨next, first, advanced⟩ := advanced
    have later := ih (budget.advance first) advanced
    rwa [List.length_cons, add_comm more.length, ← add_assoc]

end TraversalOrigin

/-- The next Pipe can accept the state that it is sent: its `FromWire` does, and its
`serve` does not refuse the request for its path. -/
structure Acceptable (next : PipeSpec) (sent : TraversalState) : Prop where
  short : (sent.visitedIDs.length : ℤ) < sent.maxHops
  nodup : sent.visitedIDs.Nodup
  fresh : next.pipeID ∉ sent.visitedIDs
  wire : ∃ received, fromWire sent.visitedIDs sent.hopLimit = .ok received
  served : ∀ (server : TunnelServer) (challengeProof accessLease : GoString),
    server.spec.pipeID = next.pipeID →
    boundedStrings 8192 (next.pipeID :: challengeProof :: sent.visitedIDs) = true →
    accessLease.length ≤ maxLeaseBytes →
    refuseOpen server (sent.openPipe next.pipeID challengeProof accessLease) = none

/-- The length and the absence of repetitions are all that matters. -/
theorem Acceptable.of_short {next : PipeSpec} {sent : TraversalState}
    (limit : 0 < sent.maxHops ∧ sent.maxHops ≤ defaultMaxPipeHops)
    (short : (sent.visitedIDs.length : ℤ) < sent.maxHops)
    (nodup : sent.visitedIDs.Nodup) (fresh : next.pipeID ∉ sent.visitedIDs) :
    Acceptable next sent := by
  have sameLimit : sent.hopLimit = sent.maxHops := if_neg (by omega)
  refine ⟨short, nodup, fresh, ?_, ?_⟩
  · have loopFree : repeated (fun _ => false) [] sent.visitedIDs = false :=
      repeated_eq_false.mpr ⟨nodup, by simp⟩
    rw [fromWire, sameLimit, failIf_of_not (by omega), ok_bind,
      failIf_of_not (by simp [loopFree]), ok_bind, failIf_of_not (by omega)]
    exact ⟨_, rfl⟩
  · intro server challengeProof accessLease samePipe bounded shortLease
    have loopFree : repeated (· == server.spec.pipeID) [] sent.visitedIDs = false := by
      refine repeated_eq_false.mpr ⟨nodup, fun id member => ⟨by simp, ?_⟩⟩
      grind
    grind [refuseOpen, TraversalState.openPipe]

/-- Every open that the engine asks for is acceptable to the next Pipe. -/
def EngineCommand.OpensAcceptably : EngineCommand → Prop
  | .openDownstream next sent => Acceptable next sent
  | _ => True

/-- What `Forward` opens for a Pipe target, whatever the resolver answers. -/
theorem forward_only_iff {current : PipeSpec} {state : TraversalState} {hasOpener : Bool}
    (isPipe : current.target.kind = .pipe) :
    (forward current state hasOpener).Only EngineCommand.OpensAcceptably ↔
      ∀ next : PipeSpec, next.validate = .ok () → next.pipeID ∉ state.visitedIDs →
        1 ≤ state.remaining → hasOpener = true → Acceptable next state := by
  rw [forward, isPipe]
  constructor
  · rintro ⟨-, only⟩ next valid fresh left given
    have opened := only (.ok next)
    dsimp only at opened
    rw [valid] at opened
    rw [if_neg fresh, if_neg (by omega), if_neg (by simp [given])] at opened
    exact opened.1
  · intro acceptable
    refine ⟨trivial, ?_⟩
    rintro (error | next)
    · trivial
    dsimp only
    cases valid : next.validate with
    | error error => trivial
    | ok checked =>
      dsimp only
      split
      · trivial
      · rename_i fresh
        split
        · trivial
        · rename_i left
          split
          · trivial
          · rename_i given
            refine ⟨acceptable next valid fresh (by omega) (by simpa using given), ?_⟩
            rintro (error | ⟨⟩) <;> trivial

/-- A valid Pipe with a given identifier and target. -/
def relayedSpec (pipeID : GoString) (target : Ref) : PipeSpec :=
  { ref := ⟨.pipe, str "relayed"⟩, pipeID, scope := none,
    ingress := ⟨.tubo, [], [], [], []⟩, target, visibility := .unlisted,
    access := .inviteOnly, allowReexport := false, createdAt := ⟨0, 0⟩,
    updatedAt := ⟨0, 0⟩ }

/-- A name that a list does not contain. -/
theorem exists_fresh (visited : List GoString) : ∃ id, id ∉ visited := by
  refine ⟨visited.flatten ++ [0], fun member => ?_⟩
  have longer := (List.sublist_flatten_of_mem member).length_le
  grind

/-- Forwarding sends a state that the next Pipe refuses in one case: a traversal that
`NewTraversal` started has been advanced through all but one of its hops. -/
theorem forward_acceptable_iff {origin : TraversalOrigin} {hops : List GoString}
    {state : TraversalState} (reached : origin.reach hops = .ok state) :
    (∀ (current : PipeSpec) (hasOpener : Bool), current.target.kind = .pipe →
        (forward current state hasOpener).Only EngineCommand.OpensAcceptably) ↔
      ∀ pipeID, origin = .new pipeID → (hops.length : ℤ) + 1 ≠ defaultMaxPipeHops := by
  rw [TraversalOrigin.reach, bind_eq_ok] at reached
  obtain ⟨first, started, advanced⟩ := reached
  have budget := (TraversalOrigin.start_budget started).advanceAll advanced
  constructor
  · intro acceptable pipeID isNew last
    obtain ⟨limit, visited, total⟩ := budget.new pipeID isNew
    obtain ⟨fresh, isFresh⟩ := exists_fresh state.visitedIDs
    have forwarded := acceptable (relayedSpec pipeID ⟨.pipe, str "next"⟩) true rfl
    have sent := (forward_only_iff rfl).mp forwarded
      (relayedSpec fresh ⟨.service, str "web"⟩) rfl isFresh (by omega) rfl
    have short := sent.short
    omega
  · intro notLast current hasOpener isPipe
    rw [forward_only_iff isPipe]
    intro next valid fresh left given
    refine Acceptable.of_short budget.limit ?_ budget.nodup fresh
    cases origin with
    | new pipeID =>
      obtain ⟨limit, visited, total⟩ := budget.new pipeID rfl
      have room := notLast pipeID rfl
      omega
    | wire visited hopLimit =>
      have total := budget.wire visited hopLimit rfl
      omega

namespace Sample

/-- The identifiers `pip_1`, `pip_2` and so on. -/
def numberedPipes (count : ℕ) : List GoString :=
  (List.range' 1 count).map fun number => str "pip_" ++ itoa number

/-- The next Pipe is `pip_8`. -/
def relayed : (c : EngineCommand) → Unit → c.Response × Unit
  | .resolvePipe _, _ => (.ok (relayedSpec (str "pip_8") ⟨.service, str "web"⟩), ())
  | .resolveService _, _ => (.error errNotFound, ())
  | .validateService _, _ => (.ok (), ())
  | .dialService _, _ => (.ok (), ())
  | .openDownstream .., _ => (.ok (), ())

end Sample

/-- A new traversal that was advanced three times. -/
theorem forward_acceptable_iff_three :
    ∃ state, (TraversalOrigin.new (str "pip_0")).reach (Sample.numberedPipes 3) = .ok state ∧
      (forward (relayedSpec (str "pip_3") ⟨.pipe, str "next"⟩) state true).Only
        EngineCommand.OpensAcceptably := by
  obtain ⟨state, reached⟩ : ∃ state,
      (TraversalOrigin.new (str "pip_0")).reach (Sample.numberedPipes 3) = .ok state :=
    ⟨_, rfl⟩
  exact ⟨state, reached, (forward_acceptable_iff reached).mpr (fun _ _ => by decide) _ true rfl⟩

/-- After seven advances the eight visited Pipes use up the limit of eight hops, but one
hop remains in the budget, and the next Pipe is opened. -/
theorem forward_refused_after_seven :
    ∃ state, (TraversalOrigin.new (str "pip_0")).reach (Sample.numberedPipes 7) = .ok state ∧
      ((forward (relayedSpec (str "pip_7") ⟨.pipe, str "next"⟩) state true).trace
          Sample.relayed ()).map (·.command) =
        [.resolvePipe ⟨.pipe, str "next"⟩,
          .openDownstream (relayedSpec (str "pip_8") ⟨.service, str "web"⟩) state] ∧
      fromWire state.visitedIDs state.hopLimit = .error errHopLimitExceeded :=
  ⟨_, rfl, rfl, rfl⟩

end Tubo
