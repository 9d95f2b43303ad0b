import Tubo.Domain.Model

/-!
# The Pipe graph

Package `internal/domain`, file `graph.go`: the static resolution of a path of
Pipes to a service.
-/

namespace Tubo

/-- `DefaultMaxPipeHops`. -/
def defaultMaxPipeHops : ℤ := 8

/-- `PipeLoader` and `ServiceLoader`.  The validation of a service parses its
target as a URL and is a parameter like the loaders. -/
structure PipeGraph where
  loadPipe : Ref → Except GoError PipeSpec
  loadService : Ref → Except GoError ServiceSpec
  validateService : ServiceSpec → Except GoError Unit

/-- `LogicalPath`. -/
structure LogicalPath where
  pipes : List Ref
  terminal : Ref
  deriving DecidableEq, Repr

namespace PipeGraph

/-- The loop of `ResolveLogicalPath`, with the number of rounds that are left.
`visited` has the texts of the references. -/
def walk (graph : PipeGraph) (start : Ref) (maxHops : ℤ) :
    ℕ → List GoString → List Ref → Ref → Except GoError LogicalPath
  | 0, _, _, _ =>
    .error (.new (str "pipe path from " ++ start.string ++
      str " exceeds maximum of " ++ itoa maxHops ++ str " hops"))
  | hops + 1, visited, pipes, current =>
    if current.string ∈ visited then
      .error (.new (str "pipe graph cycle detected at " ++ current.string))
    else
      match graph.loadPipe current with
      | .error error =>
        .error (.wrap (str "load " ++ current.string ++ str ": ") error [])
      | .ok pipe => do
          pipe.validate
          match pipe.target.kind with
          | .pipe =>
            graph.walk start maxHops hops (current.string :: visited)
              (pipes ++ [pipe.ref]) pipe.target
          | .service =>
            match graph.loadService pipe.target with
            | .error error =>
              .error (.wrap (str "load " ++ pipe.target.string ++ str ": ") error [])
            | .ok service => do
                graph.validateService service
                return ⟨pipes ++ [pipe.ref], service.ref⟩
          | _ =>
            .error (.new (str "pipe " ++ pipe.ref.string ++
              str " has invalid target " ++ pipe.target.string))

/-- `ResolveLogicalPath`. -/
def resolveLogicalPath (graph : PipeGraph) (start : Ref) (maxHops : ℤ) :
    Except GoError LogicalPath := do
  start.requireKind .pipe
  let maxHops := if maxHops ≤ 0 then defaultMaxPipeHops else maxHops
  graph.walk start maxHops maxHops.toNat [] [] start

/-- A finite or infinite graph as a store keeps it: Pipes are valid and stored
under their own references, with different identifiers; the service that a Pipe
targets is there, valid and stored under its own reference. -/
structure Valid (graph : PipeGraph) : Prop where
  stored : ∀ ref pipe, graph.loadPipe ref = .ok pipe → pipe.ref = ref
  valid : ∀ ref pipe, graph.loadPipe ref = .ok pipe → pipe.validate = .ok ()
  distinct : ∀ ref ref' pipe pipe', graph.loadPipe ref = .ok pipe →
    graph.loadPipe ref' = .ok pipe' → pipe.pipeID = pipe'.pipeID → ref = ref'
  services : ∀ ref pipe, graph.loadPipe ref = .ok pipe → pipe.target.kind = .service → ∃ service,
      graph.loadService pipe.target = .ok service ∧
      graph.validateService service = .ok () ∧ service.ref = pipe.target

/-- Behind a Pipe that targets a Pipe, a logical path goes on with that Pipe. -/
theorem resolveLogicalPath_next {graph : PipeGraph} {start : Ref} {maxHops : ℤ} {path : LogicalPath}
    (resolved : graph.resolveLogicalPath start maxHops = .ok path)
    {pipe : PipeSpec} (loaded : graph.loadPipe start = .ok pipe)
    (isPipe : pipe.target.kind = .pipe) : ∃ next, graph.loadPipe pipe.target = .ok next := by
  unfold resolveLogicalPath at resolved
  rw [bind_eq_ok] at resolved
  obtain ⟨-, -, walked⟩ := resolved
  dsimp only at walked
  generalize (if maxHops ≤ 0 then defaultMaxPipeHops else maxHops) = limit at walked
  generalize limit.toNat = rounds at walked
  rcases rounds with _ | _ | hops
  · cases walked
  · rw [walk, if_neg List.not_mem_nil, loaded] at walked
    dsimp only at walked
    rw [bind_eq_ok] at walked
    obtain ⟨-, -, walked⟩ := walked
    rw [isPipe] at walked
    cases walked
  · rw [walk, if_neg List.not_mem_nil, loaded] at walked
    dsimp only at walked
    rw [bind_eq_ok] at walked
    obtain ⟨-, -, walked⟩ := walked
    rw [isPipe] at walked
    grind [walk]

end PipeGraph

/-- A valid Pipe has the kind of a Pipe, and targets a service or a Pipe. -/
theorem PipeSpec.validate_kinds {p : PipeSpec} (valid : p.validate = .ok ()) :
    p.ref.requireKind .pipe = .ok () ∧ p.ref.kind = .pipe ∧
      (p.target.kind = .service ∨ p.target.kind = .pipe) := by
  unfold PipeSpec.validate at valid
  simp only [bind_eq_ok] at valid
  obtain ⟨⟨⟩, isPipe, valid⟩ := valid
  split at valid
  · cases valid
  · simp only [bind_eq_ok, failIf_eq_ok] at valid
    grind [bind_eq_ok, failIf_eq_ok, Ref.requireKind]

/-- References of Pipes are told apart by their texts. -/
theorem Ref.string_injective_pipe {r r' : Ref} (isPipe : r.kind = .pipe)
    (isPipe' : r'.kind = .pipe) (same : r.string = r'.string) : r = r' := by
  obtain ⟨kind, name⟩ := r
  obtain ⟨kind', name'⟩ := r'
  subst isPipe isPipe'
  have notEmpty : ResourceKind.pipe.string ≠ [] := by decide
  grind [List.append_cancel_left, Ref.string]

end Tubo
