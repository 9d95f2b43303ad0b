import Tubo.Runtime.Forwarding

/-!
# Chains of hops

Hop by hop an open finds its way through a Pipe graph: each Pipe knows only its
own target and the traversal state in the request.  `ResolveLogicalPath` looks at
the whole graph.

* `forwarding_refines_path` — if every open is delivered and authorized, the hops
  take the path that `ResolveLogicalPath` finds, and reach no service if it finds
  none;
* `forwarding_bounded` — whatever request a client sends, the hops are different
  Pipes, and not more than the request allows.

## Design Notes

A hop compares identifiers of Pipes, the static resolution compares references.
`Arrived` has both: the Pipes before this one, with their identifiers in the
traversal state and their references on the static path.  `Arrived.agrees` puts
one round of each side by side, and the two directions of the refinement are
inductions over it.
-/

namespace Tubo

variable (prim : Primitives)

/-! ## What an authorized open fits into -/

section Fits

variable {prim} {graph : PipeGraph} {server : TunnelServer}
  {rest : (c : ServeCommand) → c.Response} {request : OpenPipe}
  {hello : ClientHello} {challenge : GoString} {auth : Authorization}

/-- A Pipe identifier with a key path is short. -/
theorem keyPath_length_le {secretsDir pipeID path : GoString}
    (located : keyPath secretsDir pipeID = .ok path) : pipeID.length ≤ maxPipeIDLen := by
  grind [bind_eq_ok, failIf_eq_ok, keyPath, validPipeIDComponent]

theorem decodeLease_length_le {encoded : GoString} {lease : AccessLease}
    (decoded : decodeLease prim encoded = .ok lease) : encoded.length ≤ maxBytes := by
  grind [bind_eq_ok, failIf_eq_ok, decodeLease, decodeStrict]

section

variable (authorizes : Authorizes prim graph server rest request hello challenge auth)

include authorizes

/-- An authorized request was admitted. -/
theorem Authorizes.admitted (samePipe : request.pipeID = server.spec.pipeID) :
    ∃ nonce key lease answers, AdmittedLease prim server hello nonce request
      (rest .now) key lease answers := by
  have handshaken := (handshake_guarded prim server).run_post (graph.answer rest) []
  obtain ⟨nonce, same, -⟩ := handshaken _ _ _ authorizes.delivered
  have authorized := authorizes.authorized
  rw [same] at authorized
  have guarded := @authorizeOpenOnly_guarded prim server nonce hello request (rest .now) samePipe []
  have decided := guarded.run_post (graph.answer rest) [] auth authorized
  grind

/-- The fields of an authorized request keep within the bounds of `serve`. -/
theorem Authorizes.fits (samePipe : request.pipeID = server.spec.pipeID) :
    request.pipeID.length ≤ 8192 ∧ request.challengeProof.length ≤ 8192 ∧
      request.accessLease.length ≤ maxLeaseBytes := by
  obtain ⟨nonce, key, lease, answers, admitted⟩ := authorizes.admitted samePipe
  refine ⟨?_, ?_, decodeLease_length_le admitted.decoded⟩
  · obtain ⟨secretsDir, -, ⟨cached, -⟩ | ⟨path, secret, located, -⟩⟩ :=
      admitted.authority
    · rw [samePipe]
      exact (keyPath_length_le cached.located).trans (by decide)
    · rw [samePipe]
      exact (keyPath_length_le located).trans (by decide)
  · grind [AdmittedLease.proof, verifyProof_eq_true, decodeSignature_length_le]

/-- An authorized request is accepted if its path is. -/
theorem Authorizes.accepted (path : AdmittedPath server request)
    (bounded : ∀ id ∈ request.visitedPipeIDs, id.length ≤ 8192) :
    refuseOpen server request = none := by
  obtain ⟨pipeID, proof, lease⟩ := authorizes.fits path.pipe
  have short := path.short
  have limit := path.limit
  have fields : boundedStrings 8192 (request.pipeID :: request.challengeProof ::
      request.visitedPipeIDs) = true := by
    simpa [boundedStrings, pipeID, proof] using bounded
  have loopFree : repeated (· == server.spec.pipeID) [] request.visitedPipeIDs = false := by
    refine repeated_eq_false.mpr ⟨path.nodup, fun id member => ⟨by simp, ?_⟩⟩
    rw [beq_eq_false_iff_ne]
    exact fun same => path.fresh (same ▸ member)
  grind [AdmittedPath.pipe, refuseOpen, defaultMaxPipeHops]

/-- What an authorized request opens. -/
theorem Authorizes.opens (accepted : refuseOpen server request = none) :
    graph.serveOpens prim server rest = graph.targetOpens rest server request := by
  rw [serveOpens_eq, authorizes.delivered]
  dsimp only
  rw [accepted]
  rw [authorizes.authorized]

end

end Fits

/-! ## The path of an open -/

/-- The hops of a Pipe graph: for every Pipe the server that serves it and, for
every traversal state with which it is opened, the stream on which the request
arrives. -/
structure Hops (graph : PipeGraph) where
  server : PipeSpec → TunnelServer
  stream : PipeSpec → TraversalState → (c : ServeCommand) → c.Response
  serves : ∀ pipe, (server pipe).spec = pipe
  opener : ∀ pipe, (server pipe).hasOpener = true
  service : ∀ ref pipe, graph.loadPipe ref = .ok pipe → pipe.target.kind = .service →
    graph.loadService pipe.target = .ok (server pipe).service

namespace Hops

variable {prim} {graph : PipeGraph} (hops : Hops graph)

/-- What a Pipe opens when it is opened with a traversal state. -/
def opens (prim : Primitives) (pipe : PipeSpec) (state : TraversalState) : List Opened :=
  graph.serveOpens prim (hops.server pipe) (hops.stream pipe state)

/-- The opens that follow from one, itself included. -/
inductive Made (prim : Primitives) (first : PipeSpec) (initial : TraversalState) :
    PipeSpec → TraversalState → Prop
  | first : Made prim first initial first initial
  | next {pipe next : PipeSpec} {state forwarded : TraversalState}
      (made : Made prim first initial pipe state)
      (opened : hops.opens prim pipe state = [.pipe next forwarded]) :
      Made prim first initial next forwarded

/-- An open reaches a service through these Pipes. -/
inductive Reaches (prim : Primitives) :
    PipeSpec → TraversalState → List PipeSpec → ServiceSpec → Prop
  | service {pipe : PipeSpec} {state : TraversalState} {service : ServiceSpec}
      (opened : hops.opens prim pipe state = [.service service]) :
      Reaches prim pipe state [pipe] service
  | pipe {pipe next : PipeSpec} {state forwarded : TraversalState}
      {pipes : List PipeSpec} {service : ServiceSpec}
      (opened : hops.opens prim pipe state = [.pipe next forwarded])
      (onward : Reaches prim next forwarded pipes service) :
      Reaches prim pipe state (pipe :: pipes) service

/-- The open of a Pipe is delivered to its `serve` and authorized there. -/
def Admits (prim : Primitives) (pipe : PipeSpec) (state : TraversalState) : Prop :=
  ∃ proof lease hello challenge auth,
    Authorizes prim graph (hops.server pipe) (hops.stream pipe state)
      (state.openPipe pipe.pipeID proof lease) hello challenge auth

/-- The traversal state behind these Pipes. -/
def behind (limit : ℕ) (prior : List PipeSpec) : TraversalState :=
  ⟨prior.map (·.pipeID), limit - prior.length, limit⟩

/-- An open has come through `prior` to a Pipe, with `hopsLeft` further hops. -/
structure Arrived (prim : Primitives) (limit : ℕ) (prior : List PipeSpec)
    (current : Ref) (pipe : PipeSpec) (hopsLeft : ℕ) : Prop where
  count : prior.length + (hopsLeft + 1) = limit
  atMost : limit ≤ 8
  loaded : graph.loadPipe current = .ok pipe
  stored : ∀ earlier ∈ prior, graph.loadPipe earlier.ref = .ok earlier
  bounded : ∀ earlier ∈ prior, earlier.pipeID.length ≤ 8192
  nodup : (prior.map (·.pipeID)).Nodup
  fresh : pipe.pipeID ∉ prior.map (·.pipeID)
  admits : hops.Admits prim pipe (behind limit prior)

/-- The references that the static path has seen behind these Pipes. -/
def seen (prior : List PipeSpec) : List GoString :=
  (prior.map (·.ref.string)).reverse

variable {hops} {limit : ℕ} {prior : List PipeSpec} {current : Ref}
  {pipe : PipeSpec} {hopsLeft : ℕ}

namespace Arrived

section

variable (arrived : hops.Arrived prim limit prior current pipe hopsLeft)

include arrived

theorem hopLimit : (behind limit prior).hopLimit = limit := by
  grind [Arrived.count, TraversalState.hopLimit, behind]

/-- The request that arrives has an admitted path. -/
theorem path (proof lease : GoString) : AdmittedPath (hops.server pipe)
      ((behind limit prior).openPipe pipe.pipeID proof lease) := by
  have count := arrived.count
  have atMost := arrived.atMost
  have hopLimit := arrived.hopLimit
  exact {
    pipe := by rw [hops.serves]; rfl
    nodup := arrived.nodup
    fresh := by rw [hops.serves]; exact arrived.fresh
    short := by
      show (((prior.map (·.pipeID)).length : ℕ) : ℤ) < (behind limit prior).hopLimit
      rw [hopLimit, List.length_map]
      omega
    limit := by
      show (behind limit prior).hopLimit ≤ 8
      omega }

/-- The identifier of a Pipe that is opened is short. -/
theorem pipeID_length_le : pipe.pipeID.length ≤ 8192 := by
  obtain ⟨proof, lease, hello, challenge, auth, authorizes⟩ := arrived.admits
  exact (authorizes.fits (arrived.path proof lease).pipe).1

/-- The Pipe opens what its target resolves to. -/
theorem opens_eq :
    ∃ request, AdmittedPath (hops.server pipe) request ∧
      forwardState (hops.server pipe) request = behind limit (prior ++ [pipe]) ∧
      hops.opens prim pipe (behind limit prior) = graph.targetOpens
        (hops.stream pipe (behind limit prior)) (hops.server pipe) request := by
  obtain ⟨proof, lease, hello, challenge, auth, authorizes⟩ := arrived.admits
  have path := arrived.path proof lease
  refine ⟨_, path, ?_, authorizes.opens (authorizes.accepted path ?_)⟩
  · grind [Arrived.hopLimit, serves, forwardState, TraversalState.openPipe, behind]
  · intro id member
    obtain ⟨earlier, isPrior, rfl⟩ := List.mem_map.mp member
    exact arrived.bounded earlier isPrior

end

/-- The static path comes to a new reference as well. -/
theorem notSeen (valid : graph.Valid)
    (arrived : hops.Arrived prim limit prior current pipe hopsLeft) :
    current.string ∉ seen prior := by
  intro again
  obtain ⟨earlier, isPrior, same⟩ := List.mem_map.mp (List.mem_reverse.mp again)
  have stored := arrived.stored earlier isPrior
  have kind := (PipeSpec.validate_kinds (valid.valid _ _ stored)).2.1
  have kind' := (PipeSpec.validate_kinds (valid.valid _ _ arrived.loaded)).2.1
  have ref := valid.stored _ _ arrived.loaded
  subst ref
  have sameRef := Ref.string_injective_pipe kind kind' same
  rw [sameRef, arrived.loaded] at stored
  obtain rfl := Except.ok.inj stored
  exact arrived.fresh (List.mem_map_of_mem isPrior)

/-- The identifier of a Pipe was visited exactly if its reference was. -/
theorem visited_iff (valid : graph.Valid)
    (stored : ∀ earlier ∈ prior, graph.loadPipe earlier.ref = .ok earlier)
    {target : Ref} {next : PipeSpec} (loaded : graph.loadPipe target = .ok next)
    (visited : next.pipeID ∈ prior.map (·.pipeID)) : target.string ∈ seen prior := by
  obtain ⟨earlier, isPrior, same⟩ := List.mem_map.mp visited
  have sameRef := valid.distinct _ _ _ _ (stored earlier isPrior) loaded same
  rw [← sameRef]
  exact List.mem_reverse.mpr (List.mem_map_of_mem isPrior)

/-- One round of the static resolution. -/
theorem walk_succ (valid : graph.Valid)
    (arrived : hops.Arrived prim limit prior current pipe hopsLeft) (start : Ref) (maxHops : ℤ) :
    graph.walk start maxHops (hopsLeft + 1) (seen prior) (prior.map (·.ref)) current =
      match pipe.target.kind with
      | .pipe => graph.walk start maxHops hopsLeft (seen (prior ++ [pipe]))
          ((prior ++ [pipe]).map (·.ref)) pipe.target
      | _ => .ok ⟨(prior ++ [pipe]).map (·.ref),
          (hops.server pipe).service.ref⟩ := by
  have isValid := valid.valid _ _ arrived.loaded
  have ref := valid.stored _ _ arrived.loaded
  rw [PipeGraph.walk, if_neg (arrived.notSeen valid), arrived.loaded]
  dsimp only
  rw [isValid]
  rcases (PipeSpec.validate_kinds isValid).2.2 with isService | isPipe
  · obtain ⟨service, loaded, serviceValid, -⟩ :=
      valid.services _ _ arrived.loaded isService
    have served := hops.service _ _ arrived.loaded isService
    rw [loaded] at served
    obtain rfl := Except.ok.inj served
    rw [isService]
    rw [loaded]
    dsimp only
    rw [serviceValid]
    simp
  · rw [isPipe, ← ref]
    dsimp only [ok_bind]
    simp [seen]

/-- **One hop.**  A Pipe opens the service at which the static path ends, or the
next Pipe of the static path, or nothing, if the static path fails. -/
theorem agrees (valid : graph.Valid) (arrived : hops.Arrived prim limit prior current pipe hopsLeft)
    (start : Ref) (maxHops : ℤ) :
    (∃ service, graph.loadService service.ref = .ok service ∧
      hops.opens prim pipe (behind limit prior) = [.service service] ∧
      graph.walk start maxHops (hopsLeft + 1) (seen prior) (prior.map (·.ref))
        current = .ok ⟨(prior ++ [pipe]).map (·.ref), service.ref⟩) ∨
    (∃ next more, hopsLeft = more + 1 ∧ hops.opens prim pipe (behind limit prior) =
        [.pipe next (behind limit (prior ++ [pipe]))] ∧
      graph.walk start maxHops (hopsLeft + 1) (seen prior) (prior.map (·.ref)) current =
        graph.walk start maxHops (more + 1) (seen (prior ++ [pipe]))
          ((prior ++ [pipe]).map (·.ref)) pipe.target ∧
      graph.loadPipe pipe.target = .ok next ∧
      next.pipeID ∉ (prior ++ [pipe]).map (·.pipeID)) ∨
    (hops.opens prim pipe (behind limit prior) = [] ∧ ∃ error,
      graph.walk start maxHops (hopsLeft + 1) (seen prior) (prior.map (·.ref))
        current = .error error) := by
  obtain ⟨request, path, forwarded, opens⟩ := arrived.opens_eq
  have isValid := valid.valid _ _ arrived.loaded
  rw [opens, arrived.walk_succ valid]
  rcases (PipeSpec.validate_kinds isValid).2.2 with isService | isPipe
  · left
    obtain ⟨service, loaded, -, sameRef⟩ :=
      valid.services _ _ arrived.loaded isService
    have served := hops.service _ _ arrived.loaded isService
    grind [targetOpens_service, serves]
  right
  rw [targetOpens_pipe path (by rw [hops.serves]; exact isPipe), hops.serves,
    forwarded, hops.opener, isPipe]
  dsimp only
  have stored : ∀ earlier ∈ prior ++ [pipe], graph.loadPipe earlier.ref = .ok earlier := by
    intro earlier member
    rcases List.mem_append.mp member with isPrior | isLast
    · exact arrived.stored earlier isPrior
    · rw [List.mem_singleton.mp isLast, valid.stored _ _ arrived.loaded]
      exact arrived.loaded
  have remaining : (behind limit (prior ++ [pipe])).remaining = hopsLeft := by
    grind [Arrived.count, behind]
  cases loaded : graph.loadPipe pipe.target with
  | error error =>
    right
    refine ⟨rfl, ?_⟩
    cases hopsLeft with
    | zero => exact ⟨_, rfl⟩
    | succ more =>
      rw [PipeGraph.walk]
      split
      · exact ⟨_, rfl⟩
      · rw [loaded]
        exact ⟨_, rfl⟩
  | ok next =>
    dsimp only
    rw [valid.valid _ _ loaded, remaining]
    cases hopsLeft with
    | zero =>
      right
      rw [if_neg (by simp)]
      exact ⟨rfl, _, rfl⟩
    | succ more =>
      by_cases visited : next.pipeID ∈ (prior ++ [pipe]).map (·.pipeID)
      · right
        rw [if_neg (fun fine => fine.1 visited), PipeGraph.walk,
          if_pos (visited_iff valid stored loaded visited)]
        exact ⟨rfl, _, rfl⟩
      · left
        rw [if_pos ⟨visited, by omega, rfl⟩]
        exact ⟨next, more, rfl, rfl, rfl, rfl, visited⟩

/-- After the hop the open has come to the next Pipe. -/
theorem step (valid : graph.Valid)
    (arrived : hops.Arrived prim limit prior current pipe (hopsLeft + 1))
    {next : PipeSpec} (loaded : graph.loadPipe pipe.target = .ok next)
    (fresh : next.pipeID ∉ (prior ++ [pipe]).map (·.pipeID))
    (admits : hops.Admits prim next (behind limit (prior ++ [pipe]))) :
    hops.Arrived prim limit (prior ++ [pipe]) pipe.target next hopsLeft where
  count := by
    have count := arrived.count
    rw [List.length_append, List.length_singleton]
    omega
  atMost := arrived.atMost
  loaded := loaded
  stored := by
    intro earlier member
    rcases List.mem_append.mp member with isPrior | isLast
    · exact arrived.stored earlier isPrior
    · rw [List.mem_singleton.mp isLast, valid.stored _ _ arrived.loaded]
      exact arrived.loaded
  bounded := by
    intro earlier member
    rcases List.mem_append.mp member with isPrior | isLast
    · exact arrived.bounded earlier isPrior
    · rw [List.mem_singleton.mp isLast]
      exact arrived.pipeID_length_le
  nodup := by
    rw [List.map_append, List.nodup_append]
    refine ⟨arrived.nodup, List.nodup_singleton _, ?_⟩
    rintro id isPrior _ isLast rfl
    rw [List.map_singleton, List.mem_singleton] at isLast
    exact arrived.fresh (isLast ▸ isPrior)
  fresh := fresh
  admits := admits

end Arrived

/-! ## Both directions -/

section Refinement

variable {first : PipeSpec} {initial : TraversalState}

/-- An open that reaches a service has taken the static path. -/
theorem Reaches.walk (valid : graph.Valid) (start : Ref) (maxHops : ℤ)
    (admits : ∀ pipe state, hops.Made prim first initial pipe state → hops.Admits prim pipe state)
    {state : TraversalState} {pipes : List PipeSpec} {service : ServiceSpec}
    (reaches : hops.Reaches prim pipe state pipes service) (here : state = behind limit prior)
    (made : hops.Made prim first initial pipe state)
    (arrived : hops.Arrived prim limit prior current pipe hopsLeft) :
    graph.walk start maxHops (hopsLeft + 1) (seen prior) (prior.map (·.ref))
        current = .ok ⟨(prior ++ pipes).map (·.ref), service.ref⟩ ∧
      graph.loadService service.ref = .ok service ∧
      ∀ passed ∈ pipes, graph.loadPipe passed.ref = .ok passed := by
  have self : graph.loadPipe pipe.ref = .ok pipe := by
    rw [valid.stored _ _ arrived.loaded]
    exact arrived.loaded
  induction reaches generalizing prior current hopsLeft with
  | @service pipe state service opened =>
    subst here
    rcases arrived.agrees valid start maxHops with
      ⟨service', loaded, opens, walk⟩ | ⟨next, more, -, opens, -⟩ | ⟨opens, -⟩
    · grind
    · rw [opened] at opens
      cases opens
    · rw [opened] at opens
      cases opens
  | @pipe pipe next state forwarded pipes service opened onward ih =>
    subst here
    rcases arrived.agrees valid start maxHops with
      ⟨service', -, opens, -⟩ | ⟨next', more, rfl, opens, walk, loaded, fresh⟩ |
        ⟨opens, -⟩
    · rw [opened] at opens
      cases opens
    · have madeNext := made.next opened
      rw [opened] at opens
      cases opens
      have arrivedNext := arrived.step valid loaded fresh (admits _ _ madeNext)
      grind [PipeGraph.Valid.stored]
    · rw [opened] at opens
      cases opens

/-- Where the static path finds a service, the open reaches one. -/
theorem reaches_of_walk (valid : graph.Valid) (start : Ref) (maxHops : ℤ)
    (admits : ∀ pipe state, hops.Made prim first initial pipe state → hops.Admits prim pipe state)
    {path : LogicalPath} (made : hops.Made prim first initial pipe (behind limit prior))
    (arrived : hops.Arrived prim limit prior current pipe hopsLeft)
    (walk : graph.walk start maxHops (hopsLeft + 1) (seen prior)
      (prior.map (·.ref)) current = .ok path) :
    ∃ pipes service, hops.Reaches prim pipe (behind limit prior) pipes service := by
  induction hopsLeft generalizing prior current pipe with
  | zero =>
    rcases arrived.agrees valid start maxHops with
      ⟨service, -, opens, -⟩ | ⟨next, more, impossible, -⟩ |
        ⟨-, error, failed⟩
    · exact ⟨_, _, .service opens⟩
    · cases impossible
    · rw [failed] at walk
      cases walk
  | succ hopsLeft ih =>
    rcases arrived.agrees valid start maxHops with
      ⟨service, -, opens, -⟩ | ⟨next, more, same, opens, onward, loaded, fresh⟩ |
        ⟨-, error, failed⟩
    · exact ⟨_, _, .service opens⟩
    · cases same
      have madeNext := made.next opens
      have arrivedNext := arrived.step valid loaded fresh (admits _ _ madeNext)
      rw [onward] at walk
      obtain ⟨pipes, service, reaches⟩ :=
        ih madeNext arrivedNext walk
      exact ⟨_, _, .pipe opens reaches⟩
    · rw [failed] at walk
      cases walk

end Refinement

end Hops

/-- **Forwarding takes the static path.**  In a valid graph, where every open that
is made is delivered and authorized, an open with an empty visited list and a hop
limit from 1 to 8 reaches a service exactly if `ResolveLogicalPath` succeeds with
that limit, through the Pipes of the logical path in their order and to its
service. -/
theorem forwarding_refines_path {graph : PipeGraph} (valid : graph.Valid)
    (hops : Hops graph) {start : Ref} {first : PipeSpec}
    (loaded : graph.loadPipe start = .ok first) {limit : ℕ} (least : 1 ≤ limit) (most : limit ≤ 8)
    (admits : ∀ pipe state, hops.Made prim first ⟨[], limit, limit⟩ pipe state →
      hops.Admits prim pipe state) :
    ((∃ pipes service, hops.Reaches prim first ⟨[], limit, limit⟩ pipes service) ↔
      ∃ path, graph.resolveLogicalPath start limit = .ok path) ∧
    ∀ pipes service, hops.Reaches prim first ⟨[], limit, limit⟩ pipes service →
      graph.resolveLogicalPath start limit = .ok ⟨pipes.map (·.ref), service.ref⟩ ∧
      graph.loadService service.ref = .ok service ∧
      ∀ passed ∈ pipes, graph.loadPipe passed.ref = .ok passed := by
  obtain ⟨hopsLeft, rfl⟩ := Nat.exists_eq_add_of_le' least
  have atStart : (⟨[], ((hopsLeft + 1 : ℕ) : ℤ), ((hopsLeft + 1 : ℕ) : ℤ)⟩ :
      TraversalState) = Hops.behind (hopsLeft + 1) [] := by
    simp [Hops.behind]
  have made : hops.Made prim first (Hops.behind (hopsLeft + 1) []) first
    (Hops.behind (hopsLeft + 1) []) := .first
  have arrived : hops.Arrived prim (hopsLeft + 1) [] start first hopsLeft :=
    { count := by simp
      atMost := most
      loaded := loaded
      stored := by simp
      bounded := by simp
      nodup := List.nodup_nil
      fresh := by simp
      admits := admits _ _ made }
  have isPipe := (PipeSpec.validate_kinds (valid.valid _ _ loaded)).1
  have resolves : graph.resolveLogicalPath start ((hopsLeft + 1 : ℕ) : ℤ) =
      graph.walk start ((hopsLeft + 1 : ℕ) : ℤ) (hopsLeft + 1) [] [] start := by
    grind [PipeGraph.Valid.stored, ok_bind, PipeGraph.resolveLogicalPath]
  have forward : ∀ pipes service,
      hops.Reaches prim first (Hops.behind (hopsLeft + 1) []) pipes service → _ :=
    fun pipes service reaches =>
      reaches.walk valid start (hopsLeft + 1 : ℕ) admits rfl made arrived
  rw [resolves]
  refine ⟨⟨?_, ?_⟩, forward⟩
  · rintro ⟨pipes, service, reaches⟩
    exact ⟨_, (forward pipes service reaches).1⟩
  · rintro ⟨path, walk⟩
    exact Hops.reaches_of_walk valid start _ admits made arrived walk

/-! ### Two hops -/

/-- A Pipe in front of the toy Pipe. -/
def frontSpec : PipeSpec :=
  { plainSpec with ref := ⟨.pipe, str "front"⟩, pipeID := str "pip_front", target := plainSpec.ref }

/-- The toy primitives, with leases for both Pipes: the text tells the Pipe. -/
def plainPair : Primitives :=
  { plain with unmarshalLease := plainRead fun n =>
      { plainLease 0 with
        audiencePipeID := if n = 0 then plainPipeID else frontSpec.pipeID } }

def plainGraph : PipeGraph where
  loadPipe ref :=
    if ref = plainSpec.ref then .ok plainSpec
    else if ref = frontSpec.ref then .ok frontSpec
    else .error errNotFound
  loadService ref :=
    if ref = plainServer.service.ref then .ok plainServer.service
    else .error errNotFound
  validateService _ := .ok ()

theorem plainGraph_loadPipe {ref : Ref} {pipe : PipeSpec}
    (loaded : plainGraph.loadPipe ref = .ok pipe) :
    (ref = plainSpec.ref ∧ pipe = plainSpec) ∨ (ref = frontSpec.ref ∧ pipe = frontSpec) := by
  grind [plainGraph]

theorem plainGraph_valid : plainGraph.Valid where
  stored ref pipe loaded := by
    rcases plainGraph_loadPipe loaded with ⟨rfl, rfl⟩ | ⟨rfl, rfl⟩ <;> rfl
  valid ref pipe loaded := by
    rcases plainGraph_loadPipe loaded with ⟨rfl, rfl⟩ | ⟨rfl, rfl⟩ <;> decide +kernel
  distinct ref ref' pipe pipe' loaded loaded' := by
    rcases plainGraph_loadPipe loaded with ⟨rfl, rfl⟩ | ⟨rfl, rfl⟩ <;>
      rcases plainGraph_loadPipe loaded' with ⟨rfl, rfl⟩ | ⟨rfl, rfl⟩ <;> decide +kernel
  services ref pipe loaded isService := by
    rcases plainGraph_loadPipe loaded with ⟨rfl, rfl⟩ | ⟨rfl, rfl⟩
    · exact ⟨plainServer.service, rfl, rfl, rfl⟩
    · cases isService

def plainHops : Hops plainGraph where
  server pipe := { plainServer with spec := pipe, hasOpener := true }
  stream pipe state
    | .readOpen => .ok (state.openPipe pipe.pipeID (rawURLEncode recipientSecret)
        (plainText (if pipe = plainSpec then 0 else 1)))
    | c => (plainClient c ()).1
  serves _ := rfl
  opener _ := rfl
  service ref pipe loaded isService := by
    rcases plainGraph_loadPipe loaded with ⟨rfl, rfl⟩ | ⟨rfl, rfl⟩
    · rfl
    · cases isService

theorem plainHops_made {pipe : PipeSpec} {state : TraversalState}
    (made : plainHops.Made plainPair frontSpec ⟨[], (2 : ℕ), (2 : ℕ)⟩ pipe state) :
    (pipe = frontSpec ∧ state = ⟨[], (2 : ℕ), (2 : ℕ)⟩) ∨
      (pipe = plainSpec ∧ state = ⟨[frontSpec.pipeID], 1, 2⟩) := by
  induction made with
  | first => exact Or.inl ⟨rfl, rfl⟩
  | next made opened ih =>
    rcases ih with ⟨rfl, rfl⟩ | ⟨rfl, rfl⟩
    · cases opened
      exact Or.inr ⟨rfl, rfl⟩
    · cases opened

theorem forwarding_refines_path_pair : plainGraph.resolveLogicalPath frontSpec.ref (2 : ℕ) =
      .ok ⟨[frontSpec.ref, plainSpec.ref], plainServer.service.ref⟩ := by
  have admits : ∀ pipe state, plainHops.Made plainPair frontSpec
      ⟨[], (2 : ℕ), (2 : ℕ)⟩ pipe state → plainHops.Admits plainPair pipe state := by
    intro pipe state made
    rcases plainHops_made made with ⟨rfl, rfl⟩ | ⟨rfl, rfl⟩
    · exact ⟨_, _, _, _, _, rfl, rfl⟩
    · exact ⟨_, _, _, _, _, rfl, rfl⟩
  have loaded : plainGraph.loadPipe frontSpec.ref = .ok frontSpec := rfl
  have refines := forwarding_refines_path plainPair plainGraph_valid plainHops
    loaded (by decide) (by decide) admits
  exact (refines.2 [frontSpec, plainSpec] plainServer.service (.pipe rfl (.service rfl))).1

/-! ## Any client -/

/-- A Pipe that serves a stream. -/
structure PipeHop where
  server : TunnelServer
  stream : (c : ServeCommand) → c.Response

/-- The Pipes that serve a request one after the other.  Each accepts the request
that arrives on its stream; all but the last open a Pipe, and the traversal state
arrives in the request that the next one serves.  Neither the credentials nor the
Pipe that is asked for have to be the right ones. -/
inductive Chain (prim : Primitives) (graph : PipeGraph) :
    OpenPipe → List PipeHop → Prop
  | nil (request : OpenPipe) : Chain prim graph request []
  | last {hop : PipeHop} {request : OpenPipe}
      (delivered : hop.stream .readOpen = .ok request)
      (accepted : refuseOpen hop.server request = none) :
      Chain prim graph request [hop]
  | forward {hop : PipeHop} {request : OpenPipe} {next : PipeSpec}
      {state : TraversalState} {pipeID proof lease : GoString}
      {hops : List PipeHop}
      (delivered : hop.stream .readOpen = .ok request)
      (opened : .pipe next state ∈ graph.serveOpens prim hop.server hop.stream)
      (onward : Chain prim graph (state.openPipe pipeID proof lease) hops) :
      Chain prim graph request (hop :: hops)

section Bounded

variable {prim} {graph : PipeGraph} {hop : PipeHop} {request : OpenPipe}

/-- A Pipe that is opened was allowed by the request, and the traversal state goes
with it. -/
theorem mem_serveOpens_pipe {next : PipeSpec} {state : TraversalState}
    (delivered : hop.stream .readOpen = .ok request)
    (opened : .pipe next state ∈ graph.serveOpens prim hop.server hop.stream) :
    AdmittedPath hop.server request ∧ state = forwardState hop.server request ∧
      1 ≤ state.remaining := by
  rw [serveOpens_eq] at opened
  split at opened
  · cases opened
  rename_i hello challenge request' handshaken
  obtain rfl := Except.ok.inj ((handshake_run handshaken).symm.trans delivered)
  split at opened
  · cases opened
  rename_i accepted
  have path := refuseOpen_eq_none hop.server accepted
  split at opened
  · cases opened
  by_cases isPipe : hop.server.spec.target.kind = .pipe
  · rw [targetOpens_pipe path isPipe] at opened
    split at opened
    · cases opened
    grind
  · grind [targetOpens_service]

/-- The hop limit is sent on as it came. -/
theorem AdmittedPath.hopLimit {server : TunnelServer} (path : AdmittedPath server request) :
    (forwardState server request).hopLimit = request.hopLimit := by
  have short := path.short
  unfold TraversalState.hopLimit forwardState
  rw [if_neg (by dsimp only; omega)]

/-- The list that is sent on has no repeats and leaves room for one more. -/
theorem AdmittedPath.forwarded {server : TunnelServer} (path : AdmittedPath server request)
    (remains : 1 ≤ (forwardState server request).remaining) :
    (forwardState server request).visitedIDs.Nodup ∧
      ((forwardState server request).visitedIDs.length : ℤ) <
        request.hopLimit := by
  constructor
  · show (request.visitedPipeIDs ++ [server.spec.pipeID]).Nodup
    grind [AdmittedPath.nodup, AdmittedPath.fresh]
  · grind [forwardState]

end Bounded

/-- **Forwarding is bounded.**  Whatever request a client sends into whatever
graph, the Pipes that serve it are different, none of them is on the list of the
client, and they are at most as many as the hop limit leaves room for.  What they
send on has no repeats, fewer entries than the hop limit, and the hop limit of the
client, which is at most 8. -/
theorem forwarding_bounded {graph : PipeGraph} {request : OpenPipe}
    {hops : List PipeHop} (chain : Chain prim graph request hops) :
    (hops.map (·.server.spec.pipeID)).Nodup ∧
    (∀ hop ∈ hops, hop.server.spec.pipeID ∉ request.visitedPipeIDs) ∧
    hops.length ≤ (request.hopLimit - request.visitedPipeIDs.length).toNat ∧
    ∀ hop ∈ hops, ∀ next state, .pipe next state ∈ graph.serveOpens prim hop.server hop.stream →
      state.visitedIDs.Nodup ∧ state.visitedIDs.length < request.hopLimit ∧
      state.hopLimit = request.hopLimit ∧ request.hopLimit ≤ 8 := by
  have sends : ∀ {hop : PipeHop} {request : OpenPipe},
      hop.stream .readOpen = .ok request → ∀ next state,
      .pipe next state ∈ graph.serveOpens prim hop.server hop.stream →
      state.visitedIDs.Nodup ∧ state.visitedIDs.length < request.hopLimit ∧
      state.hopLimit = request.hopLimit ∧ request.hopLimit ≤ 8 := by
    intro hop request delivered next state opened
    obtain ⟨path, rfl, remains⟩ := mem_serveOpens_pipe delivered opened
    obtain ⟨nodup, short⟩ := path.forwarded remains
    exact ⟨nodup, short, path.hopLimit, path.limit⟩
  induction chain with
  | nil request => simp
  | @last hop request delivered accepted =>
    have path := refuseOpen_eq_none hop.server accepted
    have short := path.short
    refine ⟨List.nodup_singleton _, ?_, ?_, ?_⟩
    · simpa using path.fresh
    · rw [List.length_singleton]
      omega
    · simpa using sends delivered
  | @forward hop request next state pipeID proof lease hops delivered opened onward
      ih =>
      obtain ⟨path, rfl, -⟩ := mem_serveOpens_pipe delivered opened
      obtain ⟨nodup, fresh, count, sent⟩ := ih
      have short := path.short
      have hopLimit := path.hopLimit
      -- The rest of the chain avoids the list with this Pipe on it.
      change ∀ later ∈ hops, later.server.spec.pipeID ∉
        request.visitedPipeIDs ++ [hop.server.spec.pipeID] at fresh
      change hops.length ≤ ((forwardState hop.server request).hopLimit -
        (request.visitedPipeIDs ++ [hop.server.spec.pipeID]).length).toNat at count
      change ∀ later ∈ hops, ∀ next state, _ → _ ∧ _ < (forwardState hop.server request).hopLimit ∧
          _ = (forwardState hop.server request).hopLimit ∧
          (forwardState hop.server request).hopLimit ≤ 8 at sent
      rw [hopLimit] at count sent
      refine ⟨?_, ?_, ?_, ?_⟩
      · rw [List.map_cons, List.nodup_cons]
        refine ⟨?_, nodup⟩
        intro again
        obtain ⟨later, member, same⟩ := List.mem_map.mp again
        exact fresh later member (by simp [same])
      · rw [List.forall_mem_cons]
        refine ⟨path.fresh, fun later member visited => ?_⟩
        exact fresh later member (List.mem_append_left _ visited)
      · rw [List.length_append, List.length_singleton] at count
        rw [List.length_cons]
        omega
      · rw [List.forall_mem_cons]
        exact ⟨sends delivered, sent⟩

/-- The two Pipes of the toy graph and the streams on which they serve. -/
def plainChain : List PipeHop :=
  [⟨plainHops.server frontSpec, plainHops.stream frontSpec ⟨[], 2, 2⟩⟩, ⟨plainHops.server plainSpec,
      plainHops.stream plainSpec ⟨[frontSpec.pipeID], 1, 2⟩⟩]

theorem forwarding_bounded_pair : ∃ request, Chain plainPair plainGraph request plainChain ∧
      plainChain.length ≤ (request.hopLimit - request.visitedPipeIDs.length).toNat := by
  have chain : Chain plainPair plainGraph ((⟨[], 2, 2⟩ : TraversalState).openPipe frontSpec.pipeID
        (rawURLEncode recipientSecret) (plainText 1)) plainChain :=
    .forward rfl (List.mem_singleton_self _) (.last rfl (by decide +kernel))
  exact ⟨_, chain, (forwarding_bounded plainPair chain).2.2.1⟩

end Tubo
